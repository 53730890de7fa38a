import GuardedParsing.Proofs.AtLeastOnce

/-!
# Runs of tokens

A parser of one token looks at the first token that is left. Repeated, it takes the longest run of
tokens that it accepts.

* `tokensFrom`: the tokens that are left; `skip`: the place after the longest run of tokens with a
  property.
* `applied_satisfy_of_accepted`, `applied_satisfy_of_refused`: a parser of one token.
* `applied_many_satisfy`: **a repetition of it takes the longest run, and never fails.** It consumes a
  token in each round, so that no question is asked about it.
* `applied_atLeastOnce_satisfy`, `applied_atLeastOnce_of_refused`: the same parser at least once.
* `skip_skip`: after a longest run there is nothing more to skip.
-/

namespace GuardedParsing

variable {τ : Type}

section Runs

variable {accepts : τ → Bool} {ts : List τ}

/-- A run is empty where the first item does not have the property. -/
theorem takeWhile_of_refused (h : ∀ t ∈ ts.head?, accepts t = false) :
    ts.takeWhile accepts = [] := by
  rcases ts with _ | ⟨t, rest⟩
  · rfl
  · exact List.takeWhile_cons_of_neg (by simp [h t rfl])

/-- The first item after a longest run does not have the property. -/
theorem refused_dropWhile : ∀ t ∈ (ts.dropWhile accepts).head?, accepts t = false := by
  intro t ht
  have hnot := List.head?_dropWhile_not accepts ts
  rw [Option.mem_def.1 ht] at hnot
  simpa using hnot

end Runs

/-- The tokens from a place on. -/
def tokensFrom (tokens : Array τ) (start : Fin (tokens.size + 1)) : List τ :=
  tokens.toList.drop start

section Places

variable {tokens : Array τ} {start next : Fin (tokens.size + 1)} {t : τ} {ts rest : List τ}

theorem length_tokensFrom : (tokensFrom tokens start).length = tokens.size - start := by
  rw [tokensFrom, List.length_drop, Array.length_toList]

/-- There is a place after some of the tokens that are left, and the others are left there. -/
theorem exists_place_after (h : tokensFrom tokens start = ts ++ rest) :
    ∃ next : Fin (tokens.size + 1), next.val = start.val + ts.length ∧
      tokensFrom tokens next = rest := by
  have hlen := congrArg List.length h
  have hstart : start.val ≤ tokens.size := Nat.le_of_lt_succ start.isLt
  rw [length_tokensFrom, List.length_append] at hlen
  refine ⟨⟨start + ts.length, by omega⟩, rfl, ?_⟩
  have hdrop := congrArg (List.drop ts.length) h
  rwa [tokensFrom, List.drop_drop, List.drop_left] at hdrop

/-- What is left at a place after some of the tokens. -/
theorem tokensFrom_of_append (h : tokensFrom tokens start = ts ++ rest)
    (hnext : next.val = start.val + ts.length) : tokensFrom tokens next = rest := by
  obtain ⟨next', hval, hrest⟩ := exists_place_after h
  obtain rfl : next = next' := Fin.ext (hnext.trans hval.symm)
  exact hrest

theorem tokensFrom_of_cons (h : tokensFrom tokens start = t :: rest)
    (hnext : next.val = start.val + 1) : tokensFrom tokens next = rest :=
  tokensFrom_of_append (show tokensFrom tokens start = [t] ++ rest from h) hnext

theorem exists_next (h : tokensFrom tokens start = t :: rest) :
    ∃ next : Fin (tokens.size + 1), next.val = start.val + 1 ∧ start < next ∧
      tokensFrom tokens next = rest := by
  obtain ⟨next, hnext, hrest⟩ :=
    exists_place_after (show tokensFrom tokens start = [t] ++ rest from h)
  exact ⟨next, hnext, Fin.lt_def.2 (by rw [hnext]; exact Nat.lt_succ_self _), hrest⟩

/-- The first token that is left is the one at the place. -/
theorem head?_tokensFrom (tokens : Array τ) (start : Fin (tokens.size + 1)) :
    (tokensFrom tokens start).head? = tokens[start.val]? := by
  rw [tokensFrom, List.head?_drop, Array.getElem?_toList]

end Places

section Skip

variable (accepts : τ → Bool) (tokens : Array τ) (start : Fin (tokens.size + 1))

/-- The place after the longest run of tokens with a property. -/
def skip : Fin (tokens.size + 1) :=
  ⟨start + ((tokensFrom tokens start).takeWhile accepts).length, by
    have hrun := (List.takeWhile_sublist accepts (l := tokensFrom tokens start)).length_le
    have hstart := start.isLt
    rw [length_tokensFrom] at hrun
    omega⟩

theorem val_skip : (skip accepts tokens start).val =
    start.val + ((tokensFrom tokens start).takeWhile accepts).length := rfl

/-- The first token that is left has the property, or it does not, or there is none. -/
theorem accepted_or_refused :
    (∃ t rest, tokensFrom tokens start = t :: rest ∧ accepts t = true) ∨
      ∀ t ∈ (tokensFrom tokens start).head?, accepts t = false := by
  rcases tokensFrom tokens start with _ | ⟨t, rest⟩
  · exact .inr fun _ ht => nomatch ht
  · rcases ht : accepts t with _ | _
    · refine .inr ?_
      rintro _ ⟨⟩
      exact ht
    · exact .inl ⟨t, rest, rfl, ht⟩

variable {accepts tokens start}

/-- Where the first token does not have the property, nothing is skipped. -/
theorem skip_of_refused (h : ∀ t ∈ (tokensFrom tokens start).head?, accepts t = false) :
    skip accepts tokens start = start :=
  Fin.ext (congrArg (fun run : List τ => start.val + run.length) (takeWhile_of_refused h))

/-- Where it does, the rest of the run is skipped after it. -/
theorem skip_of_accepted {next : Fin (tokens.size + 1)} {t : τ} {rest : List τ}
    (h : tokensFrom tokens start = t :: rest) (ht : accepts t = true)
    (hnext : next.val = start.val + 1) : skip accepts tokens start = skip accepts tokens next := by
  refine Fin.ext ?_
  rw [val_skip, val_skip, h, tokensFrom_of_cons h hnext, List.takeWhile_cons_of_pos ht, hnext,
    List.length_cons]
  omega

end Skip

variable [Token τ]

/-- The error of a pattern that is called `label` and is not there: the first token that is left is
found instead, or the end of the input. -/
def missingAt (tokens : Array τ) (place : Fin (tokens.size + 1)) (label : String) : ParseError :=
  .expectedFound place [label] ((tokensFrom tokens place).head?.map Token.quoted)

section Missing

variable {tokens : Array τ} {place : Fin (tokens.size + 1)} {label : String}

theorem isFatal_missingAt : (missingAt tokens place label).isFatal = false := by
  rw [missingAt]
  rcases (tokensFrom tokens place).head? with _ | t <;> rfl

theorem withLabel_missingAt (label' : String) :
    (missingAt tokens place label).withLabel label' = missingAt tokens place label' := by
  rw [missingAt, missingAt]
  rcases (tokensFrom tokens place).head? with _ | t <;> rfl

end Missing

section Satisfy

variable {g : Grammar τ} {tokens : Array τ} {active : Guard} {accepts : τ → Bool}
  {expected : String} {key key' key₁ key₂ key₃ : Key} {start next : Fin (tokens.size + 1)}
  {a : Account} {t : τ} {rest : List τ}

theorem applied_primitive (leaf : Primitive τ) :
    (Parser.primitive key leaf).applied g tokens active start a =
      (.ok (leaf.apply tokens start), a) := by
  rw [applied_eq_runFrom, Parser.evaluate]
  rfl

section OneToken

variable (g active key expected a)

/-- The first token is taken if it is accepted. -/
theorem applied_satisfy_of_accepted (h : tokensFrom tokens start = t :: rest)
    (ht : accepts t = true) (hnext : next.val = start.val + 1) :
    (Parser.primitive key (.satisfy expected accepts)).applied g tokens active start a =
      (.ok (.success (Token.toValue t) next), a) := by
  have hhead : tokens[start.val]? = some t := by rw [← head?_tokensFrom, h, List.head?_cons]
  obtain ⟨hlt, hget⟩ := Array.getElem?_eq_some_iff.1 hhead
  have hplace : next = ⟨start.val + 1, Nat.succ_lt_succ hlt⟩ := Fin.ext hnext
  rw [applied_primitive, Primitive.apply, dif_pos hlt, hget, if_pos ht, hplace]

/-- It is refused otherwise, as the end of the input is. -/
theorem applied_satisfy_of_refused
    (h : ∀ t ∈ (tokensFrom tokens start).head?, accepts t = false) :
    (Parser.primitive key (.satisfy expected accepts)).applied g tokens active start a =
      (.ok (.failure start (missingAt tokens start expected)), a) := by
  rw [head?_tokensFrom] at h
  rw [applied_primitive, Primitive.apply, missingAt, head?_tokensFrom]
  by_cases hlt : start.val < tokens.size
  · rw [Array.getElem?_eq_getElem hlt] at h ⊢
    rw [dif_pos hlt, h _ rfl]
    rfl
  · rw [Array.getElem?_eq_none (Nat.le_of_not_lt hlt), dif_neg hlt]
    rfl

end OneToken

/-- **A repetition of a parser of one token takes the longest run of tokens that it accepts.** -/
theorem applied_many_satisfy (start : Fin (tokens.size + 1)) :
    (Parser.many key (.primitive key' (.satisfy expected accepts))).applied g tokens active start a =
      (.ok (.success (.list (((tokensFrom tokens start).takeWhile accepts).map Token.toValue))
        (skip accepts tokens start)), a) := by
  rcases accepted_or_refused accepts tokens start with ⟨t, rest, hts, ht⟩ | hrefused
  -- a round takes the token, and the rest of the run is taken after it
  · obtain ⟨next, hnext, hlt, hrest⟩ := exists_next hts
    have hround := applied_satisfy_of_accepted g active expected key' a hts ht hnext
    rw [applied_many_of_lt hround hlt, applied_many_satisfy next, hrest, hts,
      List.takeWhile_cons_of_pos ht, skip_of_accepted hts ht hnext]
    rfl
  · have hround := applied_satisfy_of_refused g active expected key' a hrefused
    rw [applied_many_of_failure hround, isFatal_missingAt, takeWhile_of_refused hrefused,
      skip_of_refused hrefused]
    rfl
termination_by tokens.size - start

/-- At least once, it takes a longest run that is not empty. -/
theorem applied_atLeastOnce_satisfy (h : (tokensFrom tokens start).takeWhile accepts ≠ []) :
    (Parser.modified key₃ (.map Build.prepended) (.and key₂
      (.primitive key (.satisfy expected accepts))
      (.many key₁ (.primitive key (.satisfy expected accepts))))).applied g tokens active start a =
      (.ok (.success (.list (((tokensFrom tokens start).takeWhile accepts).map Token.toValue))
        (skip accepts tokens start)), a) := by
  rcases accepted_or_refused accepts tokens start with ⟨t, rest, hts, ht⟩ | hrefused
  · obtain ⟨next, hnext, hlt, -⟩ := exists_next hts
    have hround := applied_satisfy_of_accepted g active expected key a hts ht hnext
    rw [applied_atLeastOnce_of_lt key hround hlt, applied_many_satisfy]
  · exact absurd (takeWhile_of_refused hrefused) h

/-- An empty run is a failure of the parser at least once. -/
theorem applied_atLeastOnce_of_refused
    (h : ∀ t ∈ (tokensFrom tokens start).head?, accepts t = false) :
    (Parser.modified key₃ (.map Build.prepended) (.and key₂
      (.primitive key (.satisfy expected accepts))
      (.many key₁ (.primitive key (.satisfy expected accepts))))).applied g tokens active start a =
      (.ok (.failure start (missingAt tokens start expected)), a) :=
  applied_map_and_of_failure (applied_satisfy_of_refused g active expected key a h)

end Satisfy

end GuardedParsing

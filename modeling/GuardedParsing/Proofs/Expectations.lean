import GuardedParsing.Proofs.OrderedChoice

/-!
# What an error expects

The labels of an error come from primitives and from the labels of nodes, and two errors at one place
are joined by adding the labels of the second one that the first does not have. So a label is listed
twice only where a primitive lists it twice. One that accepts several tokens lists them as they are
shown, one by one; every other primitive lists one label at most.

* `LabelsOnce`: labels that begin with some others and go on with new ones, each once.
* `LabelsOnce.addLabels`: **adding labels keeps this**.
* `Raises.listsOnce`: what an error expects begins with what one primitive lists.
* `expected_deduplicated`: **no label is listed twice after those of one primitive**, and none at all
  if no primitive lists two tokens that are shown alike.
* `repeated_token_is_listed_twice`: an error that lists a label twice.
-/

namespace GuardedParsing

/-- The labels begin with `listed`. Those after them are others, each once. -/
def LabelsOnce (listed labels : List String) : Prop :=
  ∃ added, labels = listed ++ added ∧ added.Nodup ∧ ∀ l ∈ added, l ∉ listed

section Labels

variable {l : String} {listed labels : List String}

theorem labelsOnce_self (listed : List String) : LabelsOnce listed listed :=
  ⟨[], (List.append_nil _).symm, List.nodup_nil, fun _ h => nomatch h⟩

theorem labelsOnce_singleton (l : String) : LabelsOnce [] [l] :=
  ⟨[l], rfl, by simp, fun _ _ h => nomatch h⟩

/-- One more label. -/
theorem LabelsOnce.concat (h : LabelsOnce listed labels) (hl : l ∉ labels) :
    LabelsOnce listed (labels ++ [l]) := by
  obtain ⟨added, rfl, hnodup, hnew⟩ := h
  rw [List.mem_append, not_or] at hl
  refine ⟨added ++ [l], List.append_assoc _ _ _, ?_, ?_⟩
  · exact List.nodup_append.2 ⟨hnodup, by simp, by grind⟩
  · grind

/-- **Labels are added only if they are not there yet.** -/
theorem LabelsOnce.addLabels (h : LabelsOnce listed labels) (others : List String) :
    LabelsOnce listed (ParseError.addLabels labels others) := by
  induction others generalizing labels with
  | nil => exact h
  | cons l others ih =>
    rw [ParseError.addLabels_cons]
    by_cases hl : l ∈ labels
    · rw [if_pos hl]
      exact ih h
    · rw [if_neg hl]
      exact ih (h.concat hl)

/-- No label is listed twice unless it is so at the beginning. -/
theorem LabelsOnce.nodup (h : LabelsOnce listed labels) (hlisted : listed.Nodup) :
    labels.Nodup := by
  obtain ⟨added, rfl, hnodup, hnew⟩ := h
  exact List.nodup_append.2 ⟨hlisted, hnodup, by grind⟩

end Labels

variable {τ : Type} [Token τ]

/-- What the error expects begins with the tokens that one of the primitives accepts, as they are
shown, or with nothing, and goes on with other labels, each once. -/
def ParseError.ListsOnce (D : Primitive τ → Prop) (e : ParseError) : Prop :=
  ∃ accepted : List τ, (accepted = [] ∨ D (.oneOf accepted)) ∧
    LabelsOnce (accepted.map Token.quoted) e.expected

section Errors

variable {D : Primitive τ → Prop} {e other : ParseError}

theorem ParseError.listsOnce_of_labelsOnce (h : LabelsOnce [] e.expected) : e.ListsOnce D :=
  ⟨[], .inl rfl, h⟩

theorem ParseError.expected_join (e other : ParseError) :
    (e.join other).expected = addLabels e.expected other.expected := by
  rw [join]
  split <;> rfl

/-- A label takes the place of all that was expected, or changes nothing. -/
theorem ParseError.ListsOnce.withLabel (h : e.ListsOnce D) (label : String) :
    (e.withLabel label).ListsOnce D := by
  rw [ParseError.withLabel]
  split
  · exact listsOnce_of_labelsOnce (labelsOnce_singleton label)
  · exact listsOnce_of_labelsOnce (labelsOnce_singleton label)
  · exact h
  · exact h

/-- **The error of two alternatives lists once what theirs do.** -/
theorem ParseError.ListsOnce.merge (h : e.ListsOnce D) (h' : other.ListsOnce D) :
    (e.merge other).ListsOnce D := by
  rw [ParseError.merge]
  split
  · exact h
  split
  · exact h'
  split
  · exact h
  split
  · exact h'
  · obtain ⟨accepted, haccepted, hlabels⟩ := h
    refine ⟨accepted, haccepted, ?_⟩
    rw [expected_join]
    exact hlabels.addLabels other.expected

/-- A primitive lists the tokens that it accepts, or one label at most. -/
theorem Primitive.listsOnce_of_failure {tokens : Array τ} {start place : Fin (tokens.size + 1)}
    {leaf : Primitive τ} (hleaf : D leaf) (h : leaf.apply tokens start = .failure place e) :
    e.ListsOnce D := by
  cases leaf with
  | pure v => cases h
  | fail message =>
    cases h
    exact ParseError.listsOnce_of_labelsOnce (labelsOnce_self [])
  | eof =>
    rw [apply] at h
    split at h <;> cases h
    exact ParseError.listsOnce_of_labelsOnce (labelsOnce_singleton _)
  | satisfy expected accepts =>
    rw [apply] at h
    split at h
    · split at h <;> cases h
      exact ParseError.listsOnce_of_labelsOnce (labelsOnce_singleton _)
    · cases h
      exact ParseError.listsOnce_of_labelsOnce (labelsOnce_singleton _)
  | oneOf accepted =>
    simp only [apply] at h
    split at h
    · split at h <;> cases h
      exact ⟨accepted, .inr hleaf, labelsOnce_self _⟩
    · cases h
      exact ⟨accepted, .inr hleaf, labelsOnce_self _⟩

/-- **What an error expects begins with what one primitive lists.** -/
theorem Raises.listsOnce {tokens : Array τ} {start place : Fin (tokens.size + 1)}
    (h : Raises D tokens start place e) : e.ListsOnce D := by
  induction h with
  | primitive hleaf h => exact Primitive.listsOnce_of_failure hleaf h
  | refused | reentered => exact ParseError.listsOnce_of_labelsOnce (labelsOnce_self [])
  | labelled label _ ih => exact ih.withLabel label
  | inContext _ _ ih => exact ih
  | merged _ _ _ _ ih₁ ih₂ => exact ih₁.merge ih₂
  | later _ _ ih => exact ih

end Errors

/-- **What an error expects is listed once**, but for what a single primitive lists twice. The labels
of an error begin with the tokens that one primitive accepts, as they are shown, if with any of a
primitive's; after them no label is listed twice, and none that is listed already. So no label is
listed twice at all, if no primitive that the parser reaches accepts two tokens that are shown
alike. -/
theorem expected_deduplicated (g : Grammar τ) (p : Parser τ) (c : Cursor τ) (a : Account)
    {place : Cursor τ} {e : ParseError} (h : (p.parse g c a).1 = .ok (.failure place e)) :
    e.ListsOnce (g.HasLeaf p) ∧
      ((∀ accepted, g.HasLeaf p (.oneOf accepted) → (accepted.map Token.quoted).Nodup) →
        e.expected.Nodup) := by
  obtain ⟨out, happ, hout⟩ := applies_of_parse h
  cases out with
  | success v next => cases hout
  | failure place' e' =>
    cases hout
    have hlists : e.ListsOnce (g.HasLeaf p) := (happ.raises place' e rfl).listsOnce
    refine ⟨hlists, fun hdistinct => ?_⟩
    obtain ⟨accepted, rfl | hleaf, hlabels⟩ := hlists
    · exact hlabels.nodup List.nodup_nil
    · exact hlabels.nodup (hdistinct accepted hleaf)

/-- One of `a` and `b`, or one of `b` and `c`. -/
def Parser.abOrBc : Parser Char :=
  .or 2 (.primitive 0 (.oneOf ['a', 'b'])) (.primitive 1 (.oneOf ['b', 'c']))

theorem hasLeaf_abOrBc {accepted : List Char}
    (h : Grammar.HasLeaf #[] Parser.abOrBc (.oneOf accepted)) :
    accepted = ['a', 'b'] ∨ accepted = ['b', 'c'] := by
  obtain ⟨q, hl, hq⟩ := h.exists_leads fun _ _ => nofun
  cases hl with
  | part hpart =>
    rcases List.mem_cons.1 hpart with rfl | hpart
    · cases hq.eq
      exact .inl rfl
    · obtain rfl := List.mem_singleton.1 hpart
      cases hq.eq
      exact .inr rfl

/-- Before a `z`, either of two primitives would accept a `b`, which is listed once. -/
theorem expected_deduplicated_abOrBc :
    ∃ place e, (Parser.abOrBc.parse #[] (Cursor.start ⟨0, #['z']⟩) {}).1 =
        .ok (.failure place e) ∧
      (∀ accepted, Grammar.HasLeaf #[] Parser.abOrBc (.oneOf accepted) →
        (accepted.map Token.quoted).Nodup) ∧
      e.expected = ["'a'", "'b'", "'c'"] ∧ e.expected.Nodup := by
  have h : (Parser.abOrBc.parse #[] (Cursor.start ⟨0, #['z']⟩) {}).1 =
      .ok (.failure (Cursor.start ⟨0, #['z']⟩)
        ⟨.unexpected, 0, ["'a'", "'b'", "'c'"], some "'z'", none, []⟩) := by
    cbv
  have hdistinct : ∀ accepted, Grammar.HasLeaf #[] Parser.abOrBc (.oneOf accepted) →
      (accepted.map Token.quoted).Nodup := by
    intro accepted hleaf
    rcases hasLeaf_abOrBc hleaf with rfl | rfl <;> decide
  exact ⟨_, _, h, hdistinct, rfl, (expected_deduplicated _ _ _ _ h).2 hdistinct⟩

/-- **A token that a primitive accepts twice is listed twice.** -/
theorem repeated_token_is_listed_twice :
    ∃ (p : Parser Char) (d : Draft Char), (Build.oneOf ['x', 'x']).runFrom {} = (.ok p, d) ∧
      (p.parse d.grammar (Cursor.start ⟨0, #['z']⟩) {}).1 =
        .ok (.failure (Cursor.start ⟨0, #['z']⟩)
          ⟨.unexpected, 0, ["'x'", "'x'"], some "'z'", none, []⟩) :=
  ⟨_, _, rfl, by cbv⟩

end GuardedParsing

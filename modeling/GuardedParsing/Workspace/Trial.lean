import GuardedParsing.Workspace.Command

/-!
# Trials

A trial builds one parser, with the rules that it needs, and parses several inputs with it, one
after the other; what is found out about its parts is kept from one input to the next. At the end
it asks whether the parser accepts empty input.
-/

namespace GuardedParsing

/-- A parser, the rules that it needs and the inputs to parse. -/
structure Trial (τ : Type) where
  /-- The names of the rules, in the order of their creation. -/
  rules : List String
  /-- The definitions of rules, in the order in which they are given. -/
  definitions : List (String × Description τ)
  subject : Description τ
  /-- The tokens of the inputs, and how many of them are before the cursor. -/
  inputs : List (Array τ × Nat)

/-- What came of a trial. -/
structure Findings (τ : Type) where
  /-- What happened while the parser was built. -/
  building : List Event
  results : List (Response τ)
  empty : Answer τ

namespace Trial

variable {τ : Type} [Token τ]

/-- The name of the parser. -/
def subjectName : String := ""

/-- The commands that build the parser. -/
def construction (t : Trial τ) : List (Command τ) :=
  t.rules.map (fun name => .newRule name (some name)) ++
    t.definitions.map (fun (name, d) => .define name d) ++ [.name subjectName t.subject]

/-- Carries out the construction. The first mistake puts an end to it. -/
def construct (w : Workspace τ) (events : List Event) :
    List (Command τ) → Except GrammarError (List Event × Workspace τ)
  | [] => .ok (events, w)
  | c :: cs =>
    match w.perform c with
    | (⟨.refused e, _⟩, _) => .error e
    | (r, w) => construct w (events ++ r.events) cs

/-- Parses inputs in order. -/
def parseAll (w : Workspace τ) : List (Array τ × Nat) → List (Response τ) × Workspace τ
  | [] => ([], w)
  | (tokens, skip) :: inputs =>
    let (r, w) := w.perform (.parse subjectName tokens skip)
    let (rs, w) := parseAll w inputs
    (r :: rs, w)

/-- Carries out a trial. -/
def run (t : Trial τ) : Except GrammarError (Findings τ) := do
  let (building, w) ← construct {} [] t.construction
  let (results, w) := parseAll w t.inputs
  return { building, results, empty := (w.perform (.acceptsEmpty subjectName)).1.answer }

end Trial

end GuardedParsing

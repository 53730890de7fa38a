import GuardedParsing.Workspace.Basic

/-!
# Commands

What can be done with a workspace, as data, and the answers.
-/

namespace GuardedParsing

/-- A command to a workspace. Rules and parsers are given by their names in it. -/
inductive Command (τ : Type) where
  /-- Creates a rule. -/
  | newRule (id : String) (name : Option String)
  /-- Gives a rule a further name. -/
  | cloneRule (id new : String)
  | dropRule (id : String)
  | showRule (id : String)
  /-- Builds a parser and makes it the definition of a rule. -/
  | define (id : String) (d : Description τ)
  /-- Builds a parser and gives it a name. -/
  | name (var : String) (d : Description τ)
  | drop (var : String)
  /-- Parses tokens, from the cursor after the first `skip` ones. -/
  | parse (var : String) (tokens : Array τ) (skip : Nat)
  /-- Asks whether a parser accepts empty input. -/
  | acceptsEmpty (var : String)
  /-- Asks what is known about whether a parser accepts empty input. -/
  | known (var : String)

/-- The answer to a command. -/
inductive Answer (τ : Type) where
  | done
  | created (name : String)
  | dropped (existed : Bool)
  | rule (name : String) (isSet : Bool)
  | outcome (res : Outcome (Cursor τ) Value)
  | empty (accepts : Bool)
  | known (accepts : Option Bool)
  | refused (e : GrammarError)
  | broken (fault : Fault)

/-- An answer, and what happened on the way. -/
structure Response (τ : Type) where
  answer : Answer τ
  events : List Event := []

namespace Answer

/-- A rule, as it is shown. -/
def shownRule (name : String) (isSet : Bool) : String :=
  "Ref \x7b name: " ++ Text.quotedText name ++ ", set: " ++ toString isSet ++ " \x7d"

/-- What is known about a parser, as it is shown. -/
def shownKnown (accepts : Option Bool) : String :=
  let known :=
    match accepts with
    | none => "None"
    | some b => "Some(" ++ toString b ++ ")"
  "Parser \x7b accepts_empty: " ++ known ++ ", .. \x7d"

end Answer

namespace Workspace

variable {τ : Type} [Token τ]

/-- Is the rule defined? -/
def isSet (w : Workspace τ) (rule : RuleId) : Bool :=
  match w.grammar.binding rule with
  | .bound _ => true
  | _ => false

/-- Builds a parser and makes it the definition of a rule. -/
def buildDefinition (w : Workspace τ) (rule : RuleId) (d : Description τ) :
    Response τ × Workspace τ :=
  match w.build d with
  | (.error e, w) => (⟨.refused e, []⟩, w)
  | (.ok (p, kept), w) =>
    match (w.nameKept kept).define rule p with
    | (.error e, w) => (⟨.refused e, []⟩, w)
    | (.ok (), w) => (⟨.done, [.defined (w.grammar.name rule)]⟩, w)

/-- Builds a parser and gives it a name. -/
def buildNamed (w : Workspace τ) (var : String) (d : Description τ) :
    Response τ × Workspace τ :=
  match w.build d with
  | (.error e, w) => (⟨.refused e, []⟩, w)
  | (.ok (p, kept), w) => (⟨.done, []⟩, (w.nameParser var p).nameKept kept)

/-- Parses from a cursor on. -/
def parse (w : Workspace τ) (p : Parser τ) (c : Cursor τ) : Response τ × Workspace τ :=
  match p.parse w.grammar c { memory := w.memory } with
  | (.ok res, account) =>
    (⟨.outcome res, account.events.toList⟩, { w with memory := account.memory })
  | (.error fault, account) =>
    (⟨.broken fault, account.events.toList⟩, { w with memory := account.memory })

/-- Asks whether a parser accepts empty input. -/
def acceptsEmpty (w : Workspace τ) (p : Parser τ) : Response τ × Workspace τ :=
  match p.acceptsEmpty w.grammar w.memory with
  | (.ok b, memory) => (⟨.empty b, []⟩, { w with memory })
  | (.error fault, memory) => (⟨.broken fault, []⟩, { w with memory })

/-- Does something with the rule that has a name. -/
def withRule (w : Workspace τ) (id : String) (act : RuleId → Response τ × Workspace τ) :
    Response τ × Workspace τ :=
  match w.scope.rules.lookup id with
  | some rule => act rule
  | none => (⟨.refused (.unknown id), []⟩, w)

/-- Does something with the parser that has a name. -/
def withParser (w : Workspace τ) (var : String) (act : Parser τ → Response τ × Workspace τ) :
    Response τ × Workspace τ :=
  match w.scope.parsers.lookup var with
  | some p => act p
  | none => (⟨.refused (.unknown var), []⟩, w)

/-- Carries out a command. -/
def carryOut (w : Workspace τ) : Command τ → Response τ × Workspace τ
  | .newRule id name =>
    let (rule, w) := w.newRule id name
    (⟨.created (w.grammar.name rule), []⟩, w)
  | .cloneRule id new => w.withRule id fun rule =>
    (⟨.done, []⟩, { w with scope := { w.scope with rules := rename new rule w.scope.rules } })
  | .dropRule id =>
    (⟨.dropped (w.scope.rules.lookup id).isSome, []⟩,
      { w with scope := { w.scope with rules := w.scope.rules.filter (·.1 != id) } })
  | .showRule id => w.withRule id fun rule =>
    (⟨.rule (w.grammar.name rule) (w.isSet rule), []⟩, w)
  | .define id d => w.withRule id fun rule => w.buildDefinition rule d
  | .name var d => w.buildNamed var d
  | .drop var =>
    (⟨.dropped (w.scope.parsers.lookup var).isSome, []⟩,
      { w with scope := { w.scope with parsers := w.scope.parsers.filter (·.1 != var) } })
  | .parse var tokens skip => w.withParser var fun p =>
    w.parse p ((Cursor.start ⟨0, tokens⟩).advance skip)
  | .acceptsEmpty var => w.withParser var fun p => w.acceptsEmpty p
  | .known var => w.withParser var fun p => (⟨.known (w.memory.answer? p), []⟩, w)

/-- Carries out a command and releases the rules that nothing holds afterwards. -/
def perform (w : Workspace τ) (c : Command τ) : Response τ × Workspace τ :=
  let (response, w) := w.carryOut c
  (response, w.tidy)

/-- Does the answer put an end to a script? -/
def isLast : Answer τ → Bool
  | .broken .released => true
  | _ => false

/-- Carries out commands in order. The use of a rule that was released is the last one. -/
def script (w : Workspace τ) : List (Command τ) → List (Response τ)
  | [] => []
  | c :: cs =>
    let (response, w) := w.perform c
    if isLast response.answer then [response] else response :: script w cs

end Workspace

end GuardedParsing

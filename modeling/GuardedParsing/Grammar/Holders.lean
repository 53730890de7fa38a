import GuardedParsing.Grammar
import Std.Data.HashSet

/-!
# Who holds a rule

A parser holds the rules that it refers to as an owner, and a defined rule holds what its
definition holds. A rule lives as long as something outside the grammar, or a rule that lives,
holds it. Rules that hold each other in a cycle live on although nothing else holds them.

* `Grammar.living`: the largest set of rules each of which is held from outside or by a rule of
  the set.
* `Grammar.release`: the grammar without the rules that nothing holds.
-/

namespace GuardedParsing

namespace Parser

variable {τ : Type}

/-- The parts of a parser, in order. -/
def parts : Parser τ → List (Parser τ)
  | modified _ _ p => [p]
  | observed _ _ p => [p]
  | or _ p q => [p, q]
  | and _ p q => [p, q]
  | sequence _ ps => ps
  | many _ p => [p]
  | _ => []

/-- The rule that a parser itself refers to as an owner. -/
def ownRule? : Parser τ → Option RuleId
  | refer _ rule true => some rule
  | _ => none

mutual

/-- The number of nodes of a parser. -/
def nodes : Parser τ → Nat
  | modified _ _ p => p.nodes + 1
  | observed _ _ p => p.nodes + 1
  | or _ p q => p.nodes + q.nodes + 1
  | and _ p q => p.nodes + q.nodes + 1
  | sequence _ ps => nodesOfAll ps + 1
  | many _ p => p.nodes + 1
  | _ => 1

/-- The number of nodes of some parsers. -/
def nodesOfAll : List (Parser τ) → Nat
  | [] => 0
  | p :: ps => p.nodes + nodesOfAll ps

end

theorem nodesOfAll_append (ps qs : List (Parser τ)) :
    nodesOfAll (ps ++ qs) = nodesOfAll ps + nodesOfAll qs := by
  induction ps with
  | nil => simp [nodesOfAll]
  | cons p ps ih => simp only [List.cons_append, nodesOfAll, ih, Nat.add_assoc]

theorem nodesOfAll_parts_lt (p : Parser τ) : nodesOfAll p.parts < p.nodes := by
  cases p <;> simp only [parts, nodes, nodesOfAll] <;> omega

/-- The rules held by some parsers, without those below a key that was seen already, and `rules`. -/
def heldFrom (seen : Std.HashSet Key) (rules : List RuleId) : List (Parser τ) → List RuleId
  | [] => rules
  | p :: ps =>
    if seen.contains p.key then heldFrom seen rules ps
    else heldFrom (seen.insert p.key) (p.ownRule?.toList ++ rules) (p.parts ++ ps)
termination_by ps => nodesOfAll ps
decreasing_by
  · simp only [nodesOfAll]
    have : 0 < p.nodes := Nat.zero_lt_of_lt p.nodesOfAll_parts_lt
    omega
  · have := p.nodesOfAll_parts_lt
    simp only [nodesOfAll_append, nodesOfAll]
    omega

/-- The rules that some parsers hold. -/
def held (ps : List (Parser τ)) : List RuleId := heldFrom ∅ [] ps

end Parser

namespace Grammar

variable {τ : Type}

/-- The rules that the definition of a rule holds. -/
def heldBy (r : Rule τ) : List RuleId :=
  match r.binding with
  | .bound p => Parser.held [p]
  | _ => []

/-- The rules of `rules` that are held from outside or by one of `rules`. -/
def supported (holdings : Array (List RuleId)) (outside rules : List RuleId) : List RuleId :=
  let held := Std.HashSet.ofList (outside ++ rules.flatMap fun s => holdings[s]?.getD [])
  rules.filter held.contains

/-- What is left of some rules when those that nothing holds are taken away as long as there are
any. -/
def lasting (holdings : Array (List RuleId)) (outside rules : List RuleId) : List RuleId :=
  let rest := supported holdings outside rules
  if _fewer : rest.length < rules.length then lasting holdings outside rest else rules
termination_by rules.length
decreasing_by exact _fewer

/-- The rules that live. -/
def living (g : Grammar τ) (outside : List RuleId) : List RuleId :=
  lasting (g.map heldBy) outside (List.range g.size)

/-- Releases the rules that nothing holds. -/
def release (g : Grammar τ) (outside : List RuleId) : Grammar τ :=
  let living := Std.HashSet.ofList (g.living outside)
  g.mapIdx fun i r => if living.contains i then r else { r with binding := .released }

end Grammar

end GuardedParsing

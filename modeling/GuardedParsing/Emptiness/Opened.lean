import GuardedParsing.Parser.Basic
import Std.Data.TreeMap

/-!
# The parsers being asked about

The questions whether parsers accept empty input are nested. The parsers being asked about form a
list, the innermost first, and the depth of one is the number of parsers from it outwards. An
index by keys stands beside the list, so that a depth is found without going through the list.

* `depthOf?_eq`: the index gives what the list says.
* `depthOf?_eq_none_iff`: a parser has no depth iff it is not being asked about.
-/

namespace GuardedParsing

/-- The depth of a key in a list of keys, of which the last one is at depth 1. -/
def depthIn? (key : Key) : List Key → Option Nat
  | [] => none
  | k :: keys => if k = key then some (keys.length + 1) else depthIn? key keys

theorem depthIn?_eq_none_iff {key : Key} {keys : List Key} :
    depthIn? key keys = none ↔ key ∉ keys := by
  induction keys with
  | nil => simp [depthIn?]
  | cons k keys ih =>
    by_cases h : k = key
    · simp [depthIn?, h]
    · simp [depthIn?, h, ih, Ne.symm h]

/-- The parsers being asked about. -/
structure Opened where
  /-- Their keys, the innermost first. -/
  keys : List Key := []
  /-- Their number. -/
  size : Nat := 0
  /-- Their depths. -/
  index : Std.TreeMap Key Nat := ∅
  size_eq : size = keys.length := by rfl
  index_eq : ∀ key : Key, index[key]? = depthIn? key keys := by simp [depthIn?]

namespace Opened

/-- No parser is being asked about. -/
def empty : Opened := {}

/-- The depth at which a parser is being asked about. -/
def depthOf? (o : Opened) (key : Key) : Option Nat := o.index[key]?

theorem depthOf?_eq (o : Opened) (key : Key) : o.depthOf? key = depthIn? key o.keys :=
  o.index_eq key

theorem depthOf?_eq_none_iff {o : Opened} {key : Key} : o.depthOf? key = none ↔ key ∉ o.keys := by
  rw [depthOf?_eq, depthIn?_eq_none_iff]

/-- One more parser that is being asked about. -/
def push (o : Opened) (key : Key) : Opened where
  keys := key :: o.keys
  size := o.size + 1
  index := o.index.insert key (o.size + 1)
  size_eq := by rw [o.size_eq, List.length_cons]
  index_eq k := by
    rw [Std.TreeMap.getElem?_insert, o.index_eq, o.size_eq, depthIn?]
    simp only [Std.LawfulEqCmp.compare_eq_iff_eq]

@[simp] theorem keys_push (o : Opened) (key : Key) : (o.push key).keys = key :: o.keys := rfl

end Opened

end GuardedParsing

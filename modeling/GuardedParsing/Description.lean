import GuardedParsing.Parser.Text
import GuardedParsing.Value.Transform

/-!
# Descriptions of parsers

A description is a parser as data: which combinators are applied to what, with names for rules and
parsers that exist already. `Description.build` builds the parser.

A description that turns what a combinator gives into a value has a node for that around the
combinator's own.
-/

namespace GuardedParsing

/-- A set of tokens. -/
inductive TokenClass (τ : Type) where
  | all
  | none
  | among (tokens : List τ)
  /-- The tokens from the first to the last, both included. -/
  | range (first last : τ)

/-- Is the token in the set? -/
def TokenClass.contains {τ : Type} [Token τ] (t : τ) : TokenClass τ → Bool
  | all => true
  | none => false
  | among tokens => tokens.contains t
  | range first last => Token.upTo first t && Token.upTo t last

/-- A pattern of characters. -/
inductive TextPattern where
  | character (c : Char)
  | digit
  | hexDigit
  | letter
  | alphaNum
  | whitespace
  | space
  | word
  | number
  | integer
  | string (s : String)
  | ident
  | keyword (s : String)

/-- Builds the parser of a pattern. -/
def TextPattern.build : TextPattern → Build Char (Parser Char)
  | character c => Build.just c
  | digit => Build.digit
  | hexDigit => Build.hexDigit
  | letter => Build.letter
  | alphaNum => Build.alphaNum
  | whitespace => Build.whitespace
  | space => Build.space
  | word => Build.word
  | number => Build.number
  | integer => Build.integer
  | string s => Build.string s
  | ident => Build.ident
  | keyword s => Build.keyword s

/-- A node, or two, around a parser. -/
inductive Layer where
  | increment
  | label
  | orFail
  | failOr
  | thenPure
  | pureThen
  | betweenPure
  | debug
  | not
  | sequence
  | many
  | optional
  deriving DecidableEq, Repr

namespace Layer

/-- The message of the failing part of a layer. -/
def failed : String := "layer failed"

/-- Puts a layer around a parser, as the layer with the number `i`. -/
def around {τ : Type} (i : Nat) (p : Parser τ) : Layer → Build τ (Parser τ)
  | increment => Build.map Transform.increment.apply p
  | label => Build.labelled ("layer " ++ toString i) p
  | orFail => do Build.or p (← Build.fail failed)
  | failOr => do Build.or (← Build.fail failed) p
  | thenPure => do Build.thenIgnore p (← Build.pure .unit)
  | pureThen => do Build.ignoreThen (← Build.pure .unit) p
  | betweenPure => do Build.between (← Build.pure .unit) (← Build.pure .unit) p
  | debug => Build.debug "layer" p
  | not => do Build.same (← Build.not p)
  | sequence => do Build.map (fun v => v.items.headD .unit) (← Build.sequence [p])
  | many => do Build.map Transform.length.apply (← Build.many p)
  | optional => do Build.map (Value.getD .unit) (← Build.optional p)

/-- Puts `n` layers around a parser, taking the given ones in turn. -/
def pile {τ : Type} (n : Nat) (layers : Array Layer) (p : Parser τ) : Build τ (Parser τ) :=
  (List.range n).foldlM (fun p i =>
    match layers[i % layers.size]? with
    | some layer => layer.around i p
    | none => return p) p

end Layer

mutual

/-- A parser as data. -/
inductive Description (τ : Type) where
  | pure (v : Value)
  | fail (message : String)
  | eof
  | any
  | just (t : τ)
  | oneOf (tokens : List τ)
  | noneOf (tokens : List τ)
  | satisfy (label : String) (tokens : TokenClass τ)
  | text (characters : τ = Char) (pattern : TextPattern)
  | padded (characters : τ = Char) (p : Description τ)
  | paddedBy (p padding : Description τ)
  | map (f : Transform) (p : Description τ)
  | tryMap (f : Check) (p : Description τ)
  | constant (v : Value) (p : Description τ)
  | labelled (label : String) (p : Description τ)
  | debug (name : String) (p : Description τ)
  | both (p q : Description τ)
  | thenIgnore (p q : Description τ)
  | ignoreThen (p q : Description τ)
  | or (p q : Description τ)
  | either (p q : Description τ)
  | choice (ps : List (Description τ))
  | list (l : Listing τ)
  /-- The values of a list joined to a text. -/
  | collect (l : Listing τ)
  | optional (p : Description τ)
  | not (p : Description τ)
  | between (p opening closing : Description τ)
  | chainLeft1 (p operator : Description τ)
  | chainRight1 (p operator : Description τ)
  | chainLeft (p operator : Description τ) (seed : Value)
  | chainRight (p operator : Description τ) (seed : Value)
  /-- The rule with the name. -/
  | rule (name : String)
  /-- The parser with the name, or the stand-in of an enclosing definition. -/
  | var (name : String)
  /-- A parser that is called `var` in its own definition. Its stand-in can be kept. -/
  | recursive (var : String) (p : Description τ) (kept : Option String)
  /-- Layers around a parser, taken in turn. -/
  | wrap (n : Nat) (layers : Array Layer) (p : Description τ)
  /-- A choice between the integers from `first` up to `last`, which is not included. -/
  | choiceRange (integers : τ = Int64) (first last : Int)

/-- A parser of a list as data. -/
inductive Listing (τ : Type) where
  | sequence (ps : List (Description τ))
  | many (p : Description τ)
  | many1 (p : Description τ)
  | sepBy (p separator : Description τ)
  | sepBy1 (p separator : Description τ)

end

/-- What the names in a description stand for. -/
structure Scope (τ : Type) where
  rules : List (String × RuleId) := []
  /-- The parsers with a name; the stand-ins of enclosing definitions come first. -/
  parsers : List (String × Parser τ) := []

variable {τ : Type} [Token τ]

mutual

/-- Builds the parser that a description describes. -/
def Description.build (scope : Scope τ) : Description τ → Build τ (Parser τ)
  | .pure v => Build.pure v
  | .fail message => Build.fail message
  | .eof => do Build.same (← Build.eof)
  | .any => do Build.same (← Build.any)
  | .just t => do Build.same (← Build.just t)
  | .oneOf tokens => do Build.same (← Build.oneOf tokens)
  | .noneOf tokens => do Build.same (← Build.noneOf tokens)
  | .satisfy label tokens => do Build.same (← Build.satisfy label tokens.contains)
  | .text characters pattern => do
    Build.same (← cast (by rw [characters]) pattern.build)
  | .padded characters p => do
    let p ← p.build scope
    cast (by rw [characters]) (Build.padded (characters ▸ p))
  | .paddedBy p padding => do
    let p ← p.build scope
    Build.paddedBy p (← padding.build scope)
  | .map f p => do Build.map f.apply (← p.build scope)
  | .tryMap f p => do Build.tryMap f.apply (← p.build scope)
  | .constant v p => do Build.constant v (← p.build scope)
  | .labelled label p => do Build.labelled label (← p.build scope)
  | .debug name p => do Build.debug name (← p.build scope)
  | .both p q => do
    let p ← p.build scope
    Build.same (← Build.and p (← q.build scope))
  | .thenIgnore p q => do
    let p ← p.build scope
    Build.thenIgnore p (← q.build scope)
  | .ignoreThen p q => do
    let p ← p.build scope
    Build.ignoreThen p (← q.build scope)
  | .or p q => do
    let p ← p.build scope
    Build.or p (← q.build scope)
  | .either p q => do
    let p ← p.build scope
    Build.same (← Build.either p (← q.build scope))
  | .choice ps => do Build.choice (← buildAll scope ps)
  | .list l => do Build.same (← l.build scope)
  | .collect l => do Build.same (← Build.collect (← l.build scope))
  | .optional p => do Build.same (← Build.optional (← p.build scope))
  | .not p => do Build.same (← Build.not (← p.build scope))
  | .between p opening closing => do
    let p ← p.build scope
    let opening ← opening.build scope
    Build.between opening (← closing.build scope) p
  | .chainLeft1 p operator => do
    let p ← p.build scope
    Build.chainLeft1 Value.combine p (← Build.same (← operator.build scope))
  | .chainRight1 p operator => do
    let p ← p.build scope
    Build.chainRight1 Value.combine p (← Build.same (← operator.build scope))
  | .chainLeft p operator seed => do
    let p ← p.build scope
    Build.chainLeft Value.combine p (← Build.same (← operator.build scope)) seed
  | .chainRight p operator seed => do
    let p ← p.build scope
    Build.chainRight Value.combine p (← Build.same (← operator.build scope)) seed
  | .rule name =>
    match scope.rules.lookup name with
    | some rule => Build.reference rule
    | none => throw (.unknown name)
  | .var name =>
    match scope.parsers.lookup name with
    | some p => return p
    | none => throw (.unknown name)
  | .recursive var p kept => Build.recursive fun standIn => do
    if let some name := kept then
      Build.keep name standIn
    p.build { scope with parsers := (var, standIn) :: scope.parsers }
  | .wrap n layers p => do Layer.pile n layers (← p.build scope)
  | .choiceRange integers first last => do
    let ps ← (List.range (last - first).toNat).mapM fun (i : Nat) => do
      Build.same (← Build.just (cast integers.symm (Int64.ofInt (first + i))))
    Build.choice ps

/-- Builds the parsers of several descriptions, in order. -/
def buildAll (scope : Scope τ) : List (Description τ) → Build τ (List (Parser τ))
  | [] => return []
  | p :: ps => do
    let p ← p.build scope
    return p :: (← buildAll scope ps)

/-- Builds the parser of a list that a description describes. -/
def Listing.build (scope : Scope τ) : Listing τ → Build τ (Parser τ)
  | .sequence ps => do Build.sequence (← buildAll scope ps)
  | .many p => do Build.many (← p.build scope)
  | .many1 p => do Build.many1 (← p.build scope)
  | .sepBy p separator => do
    let p ← p.build scope
    Build.sepBy p (← separator.build scope)
  | .sepBy1 p separator => do
    let p ← p.build scope
    Build.sepBy1 p (← separator.build scope)

end

end GuardedParsing

import PromptStream.Pattern.Escape

/-!
# Bracketed classes

A bracketed class lists characters, ranges and classes, and may hold further
brackets.  Three operators combine what stands on their two sides, from left to
right: `&&` for what is in both, `--` for what is only in the first, and `~~` for
what is in just one of them.

A closing bracket right at the start stands for itself, and so do dashes there
and before the end.

Reading is a machine with the open brackets and operators on a stack.  Next to
each set it computes how deep the class is nested.
-/

namespace PromptStream

namespace Pattern

namespace Bracket

/-! ## Sets with their depth -/

/-- A set and how deep the class for it is nested. -/
structure Part where
  /-- The set. -/
  set : CharSet
  /-- The depth. -/
  depth : Nat
  deriving Repr

/-- Some sets side by side, as one. -/
def joined (parts : List Part) : Part :=
  match parts with
  | [] => ⟨.empty, 0⟩
  | [p] => p
  | parts => ⟨.unions (parts.map (·.set)), 1 + (parts.map (·.depth)).foldl max 0⟩

/-- The operators between sets. -/
inductive Operator where
  | both
  | onlyFirst
  | justOne
  deriving DecidableEq, Repr

/-- What an operator makes of two sets. -/
def Operator.apply (f : Flags) (o : Operator) (a b : Part) : Part :=
  let x := f.foldSet a.set
  let y := f.foldSet b.set
  let set := match o with
    | .both => .inter x y
    | .onlyFirst => .minus x y
    | .justOne => .exclusive x y
  ⟨set, 1 + max a.depth b.depth⟩

/-! ## The machine -/

/-- A bracket that is open, or an operator that waits for its second set. -/
inductive Level where
  /-- A bracket, with the sets before it in the one around it. -/
  | bracket (outer : List Part) (negated : Bool)
  /-- An operator and its first set. -/
  | operator (o : Operator) (first : Part)
  deriving Repr

/-- The stack and the sets of the innermost list, last first. -/
structure State where
  /-- What is open, innermost first. -/
  stack : List Level
  /-- The sets so far. -/
  parts : List Part
  deriving Repr

/-- Applies the operator that waits for a set, if one does. -/
def closeOperator (f : Flags) (p : Part) : List Level → Part × List Level
  | .operator o first :: rest => (o.apply f first p, rest)
  | stack => (p, stack)

/-- Reads an operator. -/
def State.operate (f : Flags) (s : State) (o : Operator) : State :=
  let (first, rest) := closeOperator f (joined s.parts.reverse) s.stack
  ⟨.operator o first :: rest, []⟩

/-- Takes dashes at the start of a bracket, at most so many. -/
def leadingDashes (f : Flags) : Nat → List Part → List Char → List Part × List Char
  | 0, parts, cs => (parts, cs)
  | fuel + 1, parts, cs =>
      match f.skip cs with
      | '-' :: rest => leadingDashes f fuel (⟨.char '-', 0⟩ :: parts) rest
      | cs => (parts, cs)

/-- Opens a bracket, given what follows it. -/
def State.open? (f : Flags) (s : State) (cs : List Char) : Option (State × List Char) :=
  let (negated, cs) := match f.skip cs with
    | '^' :: rest => (true, rest)
    | cs => (false, cs)
  let (dashes, cs) := leadingDashes f cs.length [] cs
  let (parts, cs) : List Part × List Char := match dashes, cs with
    | [], ']' :: rest => ([⟨.char ']', 0⟩], f.skip rest)
    | dashes, cs => (dashes, cs)
  if cs.isEmpty then none else some (⟨.bracket s.parts negated :: s.stack, parts⟩, cs)

/-- Closes a bracket: the class, if it was the outermost, or the state that
remains. -/
def State.close? (f : Flags) (s : State) : Option (Part ⊕ State) :=
  match closeOperator f (joined s.parts.reverse) s.stack with
  | (p, .bracket outer negated :: rest) =>
      (f.negateSet? negated (f.foldSet p.set)).map fun set =>
        let whole : Part := ⟨set, p.depth + 1⟩
        match rest with
        | [] => .inl whole
        | rest => .inr ⟨rest, whole :: outer⟩
  | _ => none

/-! ## Items -/

/-- Reads the name of an ASCII class, given what follows its opening bracket. -/
def readPlainClass? (f : Flags) (cs : List Char) : Option (Option Part × List Char) :=
  match cs with
  | ':' :: cs =>
      let (negated, cs) := match cs with
        | '^' :: rest => (true, rest)
        | cs => (false, cs)
      match cs.dropWhile (· != ':') with
      | ':' :: ']' :: rest =>
          (plainClass? (String.ofList (cs.takeWhile (· != ':')))).map fun s =>
            ((f.negateSet? negated (f.foldSet s)).map (⟨·, 0⟩), rest)
      | _ => none
  | _ => none

/-- Reads a character or a class that is not bracketed. -/
def readItem? (f : Flags) : List Char → Option (Escape × List Char)
  | [] => none
  | c :: cs => if c = '\\' then readEscape? f cs else some (.char c, cs)

/-- The set of a character.  Outside of Unicode only ASCII is allowed. -/
def charPart? (f : Flags) (c : Char) : Option Part :=
  if !f.unicode && 0x80 ≤ c.toNat then none else some ⟨.char c, 0⟩

/-- The set of an item. -/
def itemPart? (f : Flags) : Escape → Option Part
  | .char c => charPart? f c
  | .set s => some ⟨s, 0⟩
  | .look _ => none

/-- What follows a character once blanks and the start of a comment are
skipped. -/
def peekSkipping (f : Flags) (cs : List Char) : Option Char :=
  if f.verbose then
    match cs.dropWhile isBlank with
    | '#' :: rest => (rest.dropWhile isBlank).head?.or cs.head?
    | rest => rest.head?.or cs.head?
  else cs.head?

/-- Reads a character, a range, or a class that is not bracketed. -/
def readRange? (f : Flags) (cs : List Char) : Option (Part × List Char) := do
  let (first, rest) ← readItem? f cs
  match f.skip rest with
  | [] => none
  | '-' :: more =>
      if peekSkipping f more == some ']' || peekSkipping f more == some '-' then
        return (← itemPart? f first, '-' :: more)
      else
        let (last, rest) ← readItem? f (f.skip more)
        match first, last with
        | .char low, .char high =>
            let _ ← charPart? f low
            let _ ← charPart? f high
            if low ≤ high then return (⟨.range low.toNat high.toNat, 0⟩, rest) else none
        | _, _ => none
  | rest => return (← itemPart? f first, rest)

/-- Reads the class from a state on, with at most so many steps. -/
def run? (f : Flags) : Nat → State → List Char → Option (Part × List Char)
  | 0, _, _ => none
  | fuel + 1, s, cs =>
      match f.skip cs with
      | [] => none
      | '[' :: rest =>
          match readPlainClass? f rest with
          | some (some p, rest) => run? f fuel ⟨s.stack, p :: s.parts⟩ rest
          | some (none, _) => none
          | none => do
              let (s, rest) ← s.open? f rest
              run? f fuel s rest
      | ']' :: rest =>
          match s.close? f with
          | some (.inl p) => some (p, rest)
          | some (.inr s) => run? f fuel s rest
          | none => none
      | '&' :: '&' :: rest => run? f fuel (s.operate f .both) rest
      | '-' :: '-' :: rest => run? f fuel (s.operate f .onlyFirst) rest
      | '~' :: '~' :: rest => run? f fuel (s.operate f .justOne) rest
      | cs => do
          let (p, rest) ← readRange? f cs
          run? f fuel ⟨s.stack, p :: s.parts⟩ rest

end Bracket

/-- Reads a bracketed class, given what follows its opening bracket. -/
def readBracket? (f : Flags) (cs : List Char) : Option (Bracket.Part × List Char) := do
  let (s, rest) ← Bracket.State.open? f ⟨[], []⟩ cs
  Bracket.run? f (rest.length + 1) s rest

end Pattern

end PromptStream

import PromptStream.Pattern.Bracket

/-!
# Reading regular expressions

A pattern is read from left to right by a machine that keeps the open groups on
a stack.  A group holds the alternatives that are complete and the parts of the
one being read, and it has flags of its own: letters in a group without a body
change the flags for the rest of the group around it.

A repetition takes the part before it, and there must be one.  Look-around and
references are not part of the language.  Patterns that are nested too deep or
that stand for too much are refused.
-/

namespace PromptStream

namespace Pattern

/-! ## Repetition counts -/

/-- One past the largest count. -/
def countBound : Nat := Nat.pow 2 32

/-- Takes digits, with skips between them, at most so many. -/
def takeDigits (f : Flags) : Nat → List Char → List Char × List Char
  | 0, cs => ([], cs)
  | fuel + 1, cs =>
      match cs with
      | [] => ([], [])
      | c :: rest =>
          if c.isDigit then
            let (ds, rest) := takeDigits f fuel (f.skip rest)
            (c :: ds, rest)
          else ([], c :: rest)

/-- Reads a count with blanks around it. -/
def readCount? (f : Flags) (cs : List Char) : Option (Nat × List Char) :=
  let (ds, rest) := takeDigits f cs.length (cs.dropWhile isBlank)
  let n := ds.foldl (fun n d => 10 * n + (d.toNat - 48)) 0
  if ds.isEmpty || countBound ≤ n then none else some (n, f.skip (rest.dropWhile isBlank))

/-- Reads the counts of a repetition, given what follows the opening brace. -/
def readCounts? (f : Flags) (cs : List Char) : Option (Nat × Option Nat × List Char) := do
  let (least, rest) ← readCount? f (f.skip cs)
  match rest with
  | '\x7d' :: rest => return (least, some least, rest)
  | ',' :: rest =>
      match f.skip rest with
      | '\x7d' :: rest => return (least, none, rest)
      | rest => do
          let (most, rest) ← readCount? f rest
          match rest with
          | '\x7d' :: rest => if least ≤ most then return (least, some most, rest) else none
          | _ => none
  | _ => none

/-- Drops the mark of a repetition that takes as little as it can. -/
def dropLazyMark : List Char → List Char
  | '?' :: rest => rest
  | cs => cs

/-! ## The machine -/

/-- An expression and how deep it is nested. -/
structure Part where
  /-- The expression. -/
  node : Node
  /-- The depth. -/
  depth : Nat
  deriving Repr

/-- A group that is open. -/
structure Group where
  /-- The flags in force. -/
  flags : Flags
  /-- The parts of the alternative that is being read, last first; none stands
  for a change of flags. -/
  parts : List (Option Part) := []
  /-- The alternatives that are complete, last first. -/
  before : List Part := []
  deriving Repr

namespace Group

/-- Adds a part. -/
def push (g : Group) (p : Part) : Group := { g with parts := some p :: g.parts }

/-- Adds a part that is not nested. -/
def pushLeaf (g : Group) (n : Node) : Group := g.push ⟨n, 0⟩

/-- The greatest depth of some parts. -/
def deepest (ps : List Part) : Nat := (ps.map (·.depth)).foldl max 0

/-- The alternative that is being read, as one part. -/
def alternative (g : Group) : Part :=
  match g.parts with
  | [] => ⟨.empty, 0⟩
  | [p] => p.getD ⟨.empty, 0⟩
  | parts =>
      let ps := parts.reverse.filterMap id
      ⟨.cats (ps.map (·.node)), deepest ps + 1⟩

/-- All alternatives, as one part. -/
def whole (g : Group) : Part :=
  match g.before with
  | [] => g.alternative
  | before =>
      let ps := (g.alternative :: before).reverse
      ⟨.alts (ps.map (·.node)), deepest ps + 1⟩

/-- Starts another alternative. -/
def nextAlternative (g : Group) : Group :=
  { g with parts := [], before := g.alternative :: g.before }

/-- Repeats the last part, if there is one. -/
def repeat? (g : Group) (least : Nat) (most : Option Nat) : Option Group :=
  match g.parts with
  | some p :: rest => some { g with parts := some ⟨.rep p.node least most, p.depth + 1⟩ :: rest }
  | _ => none

end Group

/-- The open groups and the names of groups so far. -/
structure State where
  /-- The innermost group. -/
  current : Group
  /-- The groups around it, innermost first. -/
  outer : List Group := []
  /-- The names of groups. -/
  names : List (List Char) := []
  deriving Repr

namespace State

/-- The flags in force. -/
def flags (s : State) : Flags := s.current.flags

/-- Opens a group with some flags. -/
def openGroup (s : State) (f : Flags) : State :=
  { s with current := { flags := f }, outer := s.current :: s.outer }

/-- Closes the innermost group, if it is not the whole pattern. -/
def closeGroup? (s : State) : Option State :=
  match s.outer with
  | [] => none
  | g :: rest =>
      let p := s.current.whole
      some { s with current := g.push ⟨p.node, p.depth + 1⟩, outer := rest }

/-- Adds a part that is not nested. -/
def pushLeaf (s : State) (n : Node) : State := { s with current := s.current.pushLeaf n }

/-- Repeats the last part. -/
def repeat? (s : State) (least : Nat) (most : Option Nat) : Option State :=
  (s.current.repeat? least most).map fun g => { s with current := g }

end State

/-! ## Groups -/

/-- Whether a character may stand in the name of a group. -/
def isNameChar (first : Bool) (c : Char) : Bool :=
  let alphabetic := Unicode.Property.alphabetic.holds c
  if first then c == '_' || alphabetic
  else c == '_' || c == '.' || c == '[' || c == ']' || alphabetic
    || Unicode.Category.numbers.contains (Unicode.Category.ofChar c)

/-- Whether characters are the name of a group. -/
def isGroupName : List Char → Bool
  | [] => false
  | c :: cs => isNameChar true c && cs.all (isNameChar false)

/-- Opens a group with a name, given what follows the angle bracket. -/
def openNamed? (s : State) (cs : List Char) : Option (State × List Char) :=
  let name := cs.takeWhile (· != '>')
  match cs.dropWhile (· != '>') with
  | _ :: rest =>
      if isGroupName name && !s.names.contains name then
        some ({ s.openGroup s.flags with names := name :: s.names }, rest)
      else none
  | [] => none

/-- Reads what follows an opening bracket. -/
def openGroup? (s : State) (cs : List Char) : Option (State × List Char) :=
  match s.flags.skip cs with
  | '?' :: '=' :: _ => none
  | '?' :: '!' :: _ => none
  | '?' :: '<' :: '=' :: _ => none
  | '?' :: '<' :: '!' :: _ => none
  | '?' :: 'P' :: '<' :: rest => openNamed? s rest
  | '?' :: '<' :: rest => openNamed? s rest
  | '?' :: rest =>
      match s.flags.read? rest with
      | some (f, given, ending, rest) =>
          if ending = ':' then some (s.openGroup f, rest)
          else if given then
            some ({ s with current := { s.current with
              flags := f, parts := none :: s.current.parts } }, rest)
          else none
      | none => none
  | rest => some (s.openGroup s.flags, rest)

/-! ## Characters -/

/-- The expression of the dot. -/
def dot? (f : Flags) : Option Node :=
  if !f.unicode then none
  else if f.dotAll then some (.one (.complement .empty))
  else if f.returns then some (.one (.complement (.union (.char '\n') (.char '\r'))))
  else some (.one (.complement (.char '\n')))

/-- The condition of the circumflex. -/
def startLook (f : Flags) : Look := if f.multiLine then .lineStart f.returns else .textStart

/-- The condition of the dollar sign. -/
def endLook (f : Flags) : Look := if f.multiLine then .lineEnd f.returns else .textEnd

/-- The expression of an escape. -/
def escapeNode (f : Flags) : Escape → Node
  | .char c => .one (f.charSet c)
  | .set s => .one s
  | .look l => .look l

/-- Reads one piece of a pattern. -/
def State.step? (s : State) (c : Char) (rest : List Char) : Option (State × List Char) :=
  match c with
  | '(' => openGroup? s rest
  | ')' => s.closeGroup?.map (·, rest)
  | '|' => some ({ s with current := s.current.nextAlternative }, rest)
  | '[' => (readBracket? s.flags rest).map fun (p, rest) =>
      ({ s with current := s.current.push ⟨.one p.set, p.depth⟩ }, rest)
  | '?' => (s.repeat? 0 (some 1)).map (·, dropLazyMark rest)
  | '*' => (s.repeat? 0 none).map (·, dropLazyMark rest)
  | '+' => (s.repeat? 1 none).map (·, dropLazyMark rest)
  | '\x7b' => do
      let (least, most, rest) ← readCounts? s.flags rest
      let s' ← s.repeat? least most
      return (s', dropLazyMark (s.flags.skip rest))
  | '\\' => (readEscape? s.flags rest).map fun (e, rest) =>
      (s.pushLeaf (escapeNode s.flags e), rest)
  | '.' => (dot? s.flags).map fun n => (s.pushLeaf n, rest)
  | '^' => some (s.pushLeaf (.look (startLook s.flags)), rest)
  | '$' => some (s.pushLeaf (.look (endLook s.flags)), rest)
  | c => some (s.pushLeaf (.one (s.flags.charSet c)), rest)

/-- Reads a pattern from a state on, with at most so many steps. -/
def run? : Nat → State → List Char → Option Part
  | 0, _, _ => none
  | fuel + 1, s, cs =>
      match s.flags.skip cs with
      | [] => if s.outer.isEmpty then some s.current.whole else none
      | c :: rest =>
          match s.step? c rest with
          | some (s, rest) => run? fuel s rest
          | none => none

/-- How deep a pattern may be nested. -/
def maxDepth : Nat := 250

/-- The expression that a pattern spells. -/
def read? (cs : List Char) : Option Node :=
  match run? (cs.length + 1) ⟨{ flags := {} }, [], []⟩ cs with
  | some p => if p.depth ≤ maxDepth ∧ p.node.weight ≤ Node.maxWeight then some p.node else none
  | none => none

end Pattern

end PromptStream

import CardSearch.Registry
import CardSearch.Term

/-!
# The scanner

A query is read one character at a time. Between two characters the scanner keeps the word and the
filter prefix that are being typed, the marks that wait for the next word, and the terms of the
groups that are open. A word is finished by a blank, by an opening parenthesis or by the end of
the query.

In lenient mode every query is read; in strict mode what lenient mode repairs is a fault.
-/

namespace CardSearch.Query

/-- What is done about a malformed query. -/
inductive Mode where
  /-- It is repaired. -/
  | lenient
  /-- It is refused. -/
  | strict
deriving DecidableEq, Repr

/-- Whether a character stands inside quotes, with the position of the opening quote. -/
inductive Quoting where
  | outside
  | inside (opened : Nat)
  /-- Inside quotes and after a backslash. -/
  | escaping (opened : Nat)
deriving DecidableEq, Repr

/-- After a backslash that escapes the next character. -/
def Quoting.escaped : Quoting → Quoting
  | .inside p => .escaping p
  | q         => q

/-- After the character that was escaped. -/
def Quoting.resumed : Quoting → Quoting
  | .escaping p => .inside p
  | q           => q

/-- A filter name and its operator, typed before a word. -/
structure FilterPrefix where
  name : String
  op : String
deriving DecidableEq, Repr

/-- A group around the innermost one. -/
structure Enclosing where
  /-- The position of the parenthesis that opened the next group inside. -/
  opened : Nat
  /-- The terms of this group before that parenthesis, the last one first. -/
  before : List Term

/-- What is kept between two characters. -/
structure Scanner where
  /-- The word so far. -/
  word : String
  /-- The filter prefix of the word, once its operator has begun. -/
  pre : Option FilterPrefix
  quoting : Quoting
  /-- The position of the `!` that waits for a word. -/
  negated : Option Nat
  /-- The position of the `|` that waits for a word. -/
  bar : Option Nat
  /-- The terms of the innermost group, the last one first. -/
  terms : List Term
  /-- The groups around it, from the inside out. -/
  enclosing : List Enclosing

namespace Scanner

/-- Before the first character. -/
def start : Scanner := ⟨"", none, .outside, none, none, [], []⟩

/-! ### Characters -/

/-- What a character does. -/
inductive Role where
  /-- Joins the word, whatever it is, because a backslash stands before it. -/
  | escaped
  /-- Joins the word, because it stands inside quotes. -/
  | quoted
  | beginEscape
  | openQuote
  | closeQuote
  | openGroup
  | closeGroup
  | bar
  /-- A `!` that negates the next word. -/
  | bang
  /-- A character of an operator, or of a word that it stands in. -/
  | operator
  | blank
  | letter
deriving DecidableEq, Repr

/-- The role of a character outside quotes. A `!` negates only where neither a word nor a filter
prefix has begun. -/
def plainRole (s : Scanner) : Char → Role
  | '('  => .openGroup
  | ')'  => .closeGroup
  | '|'  => .bar
  | '!'  => if s.pre.isNone && s.word.isEmpty then .bang else .operator
  | ':'  => .operator
  | '='  => .operator
  | '<'  => .operator
  | '>'  => .operator
  | '"'  => .openQuote
  | ' '  => .blank
  | '\t' => .blank
  | '\n' => .blank
  | _    => .letter

/-- The role of a character. -/
def role (s : Scanner) (c : Char) : Role :=
  match s.quoting with
  | .escaping _ => .escaped
  | .inside _   => if c = '\\' then .beginEscape else if c = '"' then .closeQuote else .quoted
  | .outside    => s.plainRole c

/-- Adds a character to the word. -/
def push (s : Scanner) (c : Char) : Scanner := { s with word := s.word.push c }

/-- Adds an operator character. After a word it begins an operator, and the word was the name of a
filter; right after an operator it goes on with it; anywhere else it is part of the word. -/
def operator (s : Scanner) (c : Char) : Scanner :=
  match s.pre with
  | none   =>
    if s.word.isEmpty then s.push c
    else { s with word := "", pre := some ⟨s.word, String.singleton c⟩ }
  | some p =>
    if s.word.isEmpty then { s with pre := some { p with op := p.op.push c } } else s.push c

/-! ### Words and groups -/

/-- The leaf that the word makes with its filter prefix and its negation; none while the word is
empty. -/
def leaf? (registry : Registry) (s : Scanner) : Option Term :=
  if s.word.isEmpty then none
  else
    let t :=
      match s.pre with
      | none   => .name s.word
      | some p => .filter p.name (registry.lookup p.name) p.op s.word
    some (if s.negated.isSome then .neg t else t)

/-- Appends a finished leaf to the innermost group. After a `|` it becomes the right side of a
disjunction, whose left side is the last term of the group; without one the leaf stands alone. -/
def attach (mode : Mode) (s : Scanner) (leaf : Term) : Except SyntaxError Scanner :=
  let cleared := { s with word := "", pre := none, negated := none, bar := none }
  match s.bar, s.terms with
  | none,   terms         => .ok { cleared with terms := leaf :: terms }
  | some _, left :: terms => .ok { cleared with terms := .or left leaf :: terms }
  | some p, []            =>
    match mode with
    | .strict  => .error ⟨p, .noLeftOperand⟩
    | .lenient => .ok { cleared with terms := [leaf] }

/-- Finishes the word, if there is one. -/
def completeWord (mode : Mode) (registry : Registry) (s : Scanner) : Except SyntaxError Scanner :=
  match s.leaf? registry with
  | none      => .ok s
  | some leaf => s.attach mode leaf

/-- Opens a group inside the innermost one. -/
def openGroup (s : Scanner) (position : Nat) : Scanner :=
  { s with terms := [], enclosing := ⟨position, s.terms⟩ :: s.enclosing }

/-- What has been typed of a term, as it was written. -/
def typed (s : Scanner) : String :=
  match s.pre with
  | none   => s.word
  | some p => p.name ++ p.op ++ s.word

/-- What is wrong with closing a group here. -/
def closeFault? (s : Scanner) : Option SyntaxFault :=
  if !s.word.isEmpty || s.pre.isSome then some (.unfinishedTerm s.typed)
  else if s.negated.isSome then some .bangBeforeClose
  else if s.bar.isSome then some .barBeforeClose
  else if s.enclosing.isEmpty then some .unmatchedClose
  else none

/-- Drops the word and closes the innermost group, if one is open. -/
def closeInnermost (s : Scanner) : Scanner :=
  match s.enclosing with
  | []      => { s with word := "" }
  | e :: es =>
    { s with word := "", terms := .group s.terms.reverse :: e.before, enclosing := es }

/-- Takes a closing parenthesis. -/
def closeGroup (mode : Mode) (s : Scanner) (position : Nat) : Except SyntaxError Scanner :=
  match mode with
  | .lenient => .ok s.closeInnermost
  | .strict  =>
    match s.closeFault? with
    | some fault => .error ⟨position, fault⟩
    | none       => .ok s.closeInnermost

/-! ### Reading a query -/

/-- Takes the character at a position. -/
def step (mode : Mode) (registry : Registry) (s : Scanner) (position : Nat) (c : Char) :
    Except SyntaxError Scanner :=
  match s.role c with
  | .escaped     => .ok { s.push c with quoting := s.quoting.resumed }
  | .quoted      => .ok (s.push c)
  | .beginEscape => .ok { s with quoting := s.quoting.escaped }
  | .openQuote   => .ok { s with quoting := .inside position }
  | .closeQuote  => .ok { s with quoting := .outside }
  | .openGroup   => (s.completeWord mode registry).map (·.openGroup position)
  | .closeGroup  => s.closeGroup mode position
  | .bar         => .ok { s with bar := some position }
  | .bang        => .ok { s with negated := some position }
  | .operator    => .ok (s.operator c)
  | .blank       => s.completeWord mode registry
  | .letter      => .ok (s.push c)

/-- Takes characters, the first of them at a position. -/
def run (mode : Mode) (registry : Registry) (s : Scanner) (position : Nat) :
    List Char → Except SyntaxError Scanner
  | []      => .ok s
  | c :: cs =>
    match s.step mode registry position c with
    | .error e => .error e
    | .ok s    => s.run mode registry (position + 1) cs

/-- What is wrong with the end of the query before the last word is finished. -/
def quoteFault? (s : Scanner) (length : Nat) : Option SyntaxError :=
  match s.quoting with
  | .outside    => none
  | .inside p   => some ⟨p, .unterminatedQuote⟩
  | .escaping _ => some ⟨length, .danglingEscape⟩

/-- What is wrong with the end of the query after the last word was finished. -/
def pendingFault? (s : Scanner) : Option SyntaxError :=
  match s.enclosing.getLast?, s.bar, s.negated with
  | some e, _,      _      => some ⟨e.opened, .unclosedGroup⟩
  | none,   some p, _      => some ⟨p, .noRightOperand⟩
  | none,   none,   some p => some ⟨p, .noNegated⟩
  | none,   none,   none   => none

/-- The terms of the outermost group. Groups that are still open are not among them. -/
def rootTerms (s : Scanner) : List Term :=
  match s.enclosing.getLast? with
  | some e => e.before.reverse
  | none   => s.terms.reverse

/-- Ends a query of the given length. -/
def finish (mode : Mode) (registry : Registry) (s : Scanner) (length : Nat) :
    Except SyntaxError Term :=
  match mode with
  | .lenient => (s.completeWord mode registry).map fun s => .group s.rootTerms
  | .strict  =>
    match s.quoteFault? length with
    | some e => .error e
    | none   =>
      match s.completeWord mode registry with
      | .error e => .error e
      | .ok s    =>
        match s.pendingFault? with
        | some e => .error e
        | none   => .ok (.group s.rootTerms)

end Scanner

end CardSearch.Query

/-
GNU `getopt_long`: from the words of a command line to its options and
operands.

A word is an operand, a long option (`--name`, `--name=value`), a cluster
of short ones (`-c`, `-cvalue`), or `--`, behind which all words are
operands. An option that takes a value and has none attached takes the
next word, whatever it looks like. A long name may be abbreviated as long
as only one meaning has it as a prefix; a name that is there exactly wins
over what it abbreviates. Operands may stand anywhere: GNU moves them
behind the options, in their order.

# Round trip

`Spelled` says how one item of a command line may be written. However the
items are written and mixed, `getopt` gives the options in their order
and the operands in theirs (`getopt_spelled`).
-/
import Mathlib

namespace Maplesyrup.Base

variable {α : Type*}

/-- A word of the command line, or a part of one. -/
abbrev Text := List Char

structure LongOption (α : Type*) where
  name : Text
  takesValue : Bool
  meaning : α

/-- The options a program has. -/
structure Grammar (α : Type*) where
  longopts : List (LongOption α)
  /-- Whether a short option takes a value, and its meaning. -/
  short : Char → Option (Bool × α)

/-- An option met, or a word that is none. -/
inductive Met (α : Type*)
  | option (meaning : α) (value : Option Text)
  | unknown
deriving DecidableEq, Repr

-- ============================================================== one option

/-- The option of a long name. -/
def Grammar.long [DecidableEq α] (g : Grammar α) (name : Text) :
    Option (Bool × α) :=
  match g.longopts.find? fun o => o.name = name with
  | some o => some (o.takesValue, o.meaning)
  | none =>
      match g.longopts.filter fun o => name.isPrefixOf o.name with
      | [] => none
      | o :: os =>
          if os.all fun p =>
              p.takesValue = o.takesValue ∧ p.meaning = o.meaning then
            some (o.takesValue, o.meaning)
          else none

/-- What a word starts: it is done, or waits for the next word to be a
value. -/
inductive Started (α : Type*)
  | operand
  | stop
  | met (options : List (Met α))
  | waits (options : List (Met α)) (meaning : α)

/-- An option found, with the value attached to it. -/
def startFound : Option (Bool × α) → Option Text → Started α
  | none, _ => .met [.unknown]
  | some (false, _), some _ => .met [.unknown]
  | some (false, a), none => .met [.option a none]
  | some (true, a), some v => .met [.option a (some v)]
  | some (true, a), none => .waits [] a

/-- A long option: its name, and what stands behind `=`. -/
def Grammar.startLong [DecidableEq α] (g : Grammar α) (text : Text) :
    Started α :=
  let name := text.takeWhile (· ≠ '=')
  startFound (g.long name) (text.drop name.length).tail?

/-- A cluster of short options. -/
def Grammar.startShort (g : Grammar α) : Text → List (Met α) → Started α
  | [], met => .met met
  | c :: cs, met =>
      match g.short c with
      | none => g.startShort cs (met ++ [.unknown])
      | some (false, a) => g.startShort cs (met ++ [.option a none])
      | some (true, a) =>
          if cs = [] then .waits met a
          else .met (met ++ [.option a (some cs)])

def Grammar.start [DecidableEq α] (g : Grammar α) : Text → Started α
  | '-' :: '-' :: [] => .stop
  | '-' :: '-' :: text => g.startLong text
  | '-' :: c :: cs => g.startShort (c :: cs) []
  | _ => .operand

-- ============================================================ the whole line

/-- The options met, and the operands. -/
def getopt [DecidableEq α] (g : Grammar α) :
    List Text → List (Met α) × List Text
  | [] => ([], [])
  | word :: words =>
      match g.start word with
      | .operand => ((getopt g words).1, word :: (getopt g words).2)
      | .stop => ([], words)
      | .met options => (options ++ (getopt g words).1, (getopt g words).2)
      | .waits options a =>
          match words with
          | [] => (options ++ [.unknown], [])
          | value :: words =>
              (options ++ .option a (some value) :: (getopt g words).1,
                (getopt g words).2)

-- ============================================================== spellings

/-- What a command line says, one thing after the other. -/
inductive Item (α : Type*)
  | option (meaning : α) (value : Option Text)
  | operand (word : Text)

/-- The word is no option. -/
def Operand (word : Text) : Prop := ∀ c cs, word ≠ '-' :: c :: cs

/-- The words an item may be written in. -/
inductive Spelled [DecidableEq α] (g : Grammar α) :
    Item α → List Text → Prop
  | long (name : Text) (a : α) (hname : name ≠ [])
      (hplain : '=' ∉ name) (hlong : g.long name = some (false, a)) :
      Spelled g (.option a none) ['-' :: '-' :: name]
  | longValue (name : Text) (a : α) (value : Text)
      (hplain : '=' ∉ name) (hlong : g.long name = some (true, a)) :
      Spelled g (.option a (some value))
        ['-' :: '-' :: (name ++ '=' :: value)]
  | longNext (name : Text) (a : α) (value : Text) (hname : name ≠ [])
      (hplain : '=' ∉ name) (hlong : g.long name = some (true, a)) :
      Spelled g (.option a (some value)) ['-' :: '-' :: name, value]
  | short (c : Char) (a : α) (hc : c ≠ '-')
      (hshort : g.short c = some (false, a)) :
      Spelled g (.option a none) [['-', c]]
  | shortValue (c : Char) (a : α) (value : Text) (hc : c ≠ '-')
      (hvalue : value ≠ []) (hshort : g.short c = some (true, a)) :
      Spelled g (.option a (some value)) ['-' :: c :: value]
  | shortNext (c : Char) (a : α) (value : Text) (hc : c ≠ '-')
      (hshort : g.short c = some (true, a)) :
      Spelled g (.option a (some value)) [['-', c], value]
  | operand (word : Text) (hword : Operand word) :
      Spelled g (.operand word) [word]

/-- The end of a command line: nothing, or `--` and only operands. -/
inductive Tail : List Text → List Text → Prop
  | none : Tail [] []
  | behind (words : List Text) : Tail (['-', '-'] :: words) words

/-- What an item adds to the options. -/
def Item.met : Item α → List (Met α)
  | .option a value => [.option a value]
  | .operand _ => []

/-- And to the operands. -/
def Item.operands : Item α → List Text
  | .option _ _ => []
  | .operand word => [word]

variable [DecidableEq α] {g : Grammar α}

theorem start_operand {word : Text} (h : Operand word) :
    g.start word = .operand := by
  unfold Grammar.start
  split
  · exact absurd rfl (h _ _)
  · exact absurd rfl (h _ _)
  · exact absurd rfl (h _ _)
  · rfl

theorem start_long {text : Text} (h : text ≠ []) :
    g.start ('-' :: '-' :: text) = g.startLong text := by
  cases text with
  | nil => exact absurd rfl h
  | cons c cs => rfl

theorem start_short {c : Char} {cs : Text} (h : c ≠ '-') :
    g.start ('-' :: c :: cs) = g.startShort (c :: cs) [] := by
  unfold Grammar.start
  split
  · rename_i heq
    injection heq with _ heq
    injection heq with heq _
    exact absurd heq h
  · rename_i heq
    injection heq with _ heq
    injection heq with heq _
    exact absurd heq h
  · rename_i heq
    injection heq with _ heq
    rw [heq]
  · rename_i hnot
    exact absurd rfl (hnot c cs)

/-- A name up to the end or to `=`. -/
theorem takeWhile_name {name rest : Text} (h : '=' ∉ name)
    (hrest : rest = [] ∨ ∃ value, rest = '=' :: value) :
    (name ++ rest).takeWhile (· ≠ '=') = name := by
  have hname : ∀ c ∈ name, (decide (c ≠ '=')) = true := by
    intro c hc
    rw [decide_eq_true_iff]
    rintro rfl
    exact h hc
  rw [List.takeWhile_append_of_pos hname]
  rcases hrest with rfl | ⟨value, rfl⟩
  · rw [List.takeWhile_nil, List.append_nil]
  · rw [List.takeWhile_cons_of_neg (by simp), List.append_nil]

theorem startLong_eq {name rest : Text} (h : '=' ∉ name)
    (hrest : rest = [] ∨ ∃ value, rest = '=' :: value) :
    g.startLong (name ++ rest) = startFound (g.long name) rest.tail? := by
  unfold Grammar.startLong
  dsimp only
  rw [takeWhile_name h hrest, List.drop_left]

/-- One item, however written. -/
theorem getopt_item {item : Item α} {words : List Text}
    (h : Spelled g item words) (rest : List Text) :
    getopt g (words ++ rest)
      = (item.met ++ (getopt g rest).1,
        item.operands ++ (getopt g rest).2) := by
  cases h with
  | long name a hname hplain hlong =>
      have hstart : g.start ('-' :: '-' :: name)
          = .met [.option a none] := by
        rw [start_long hname, ← List.append_nil name,
          startLong_eq hplain (Or.inl rfl), hlong]
        rfl
      rw [List.singleton_append, getopt, hstart]
      rfl
  | longValue name a value hplain hlong =>
      have hstart : g.start ('-' :: '-' :: (name ++ '=' :: value))
          = .met [.option a (some value)] := by
        rw [start_long (by simp),
          startLong_eq hplain (Or.inr ⟨value, rfl⟩), hlong]
        rfl
      rw [List.singleton_append, getopt, hstart]
      rfl
  | longNext name a value hname hplain hlong =>
      have hstart : g.start ('-' :: '-' :: name) = .waits [] a := by
        rw [start_long hname, ← List.append_nil name,
          startLong_eq hplain (Or.inl rfl), hlong]
        rfl
      rw [List.cons_append, List.singleton_append, getopt, hstart]
      rfl
  | short c a hc hshort =>
      have hstart : g.start ['-', c] = .met [.option a none] := by
        rw [start_short hc, Grammar.startShort, hshort]
        rfl
      rw [List.singleton_append, getopt, hstart]
      rfl
  | shortValue c a value hc hvalue hshort =>
      have hstart : g.start ('-' :: c :: value)
          = .met [.option a (some value)] := by
        rw [start_short hc, Grammar.startShort, hshort]
        exact if_neg hvalue
      rw [List.singleton_append, getopt, hstart]
      rfl
  | shortNext c a value hc hshort =>
      have hstart : g.start ['-', c] = .waits [] a := by
        rw [start_short hc, Grammar.startShort, hshort]
        rfl
      rw [List.cons_append, List.singleton_append, getopt, hstart]
      rfl
  | operand word hword =>
      rw [List.singleton_append, getopt, start_operand hword]
      rfl

theorem getopt_tail {tail words : List Text} (h : Tail tail words) :
    getopt g tail = ([], words) := by
  cases h with
  | none => rfl
  | behind => rfl

/-- A command line, however written and mixed. -/
theorem getopt_spelled {items : List (Item α)} {words : List (List Text)}
    (h : List.Forall₂ (Spelled g) items words) {tail operands : List Text}
    (htail : Tail tail operands) :
    getopt g (words.flatten ++ tail)
      = (items.flatMap Item.met,
        items.flatMap Item.operands ++ operands) := by
  induction h with
  | nil => exact getopt_tail htail
  | cons hitem _ ih =>
      rw [List.flatten_cons, List.append_assoc, getopt_item hitem, ih,
        List.flatMap_cons, List.flatMap_cons, List.append_assoc]

end Maplesyrup.Base

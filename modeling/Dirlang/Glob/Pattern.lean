/-!
Patterns for names: literal characters, `?`, `*` and classes such as `[a-z]` and `[!x]`.

A class that is not closed is an error, and so is a `**` that is not a whole component of its
pattern; an error names a place, counted in characters from zero.
-/

namespace Dirlang.Glob

inductive ClassItem
  | char (c : Char)
  | range (first last : Char)
deriving DecidableEq

inductive Token
  | char (c : Char)
  | anyChar
  /-- `*` -/
  | anySequence
  /-- `**` -/
  | anyDepth
  | within (items : List ClassItem)
  | except (items : List ClassItem)
deriving DecidableEq

inductive Fault
  | wildcards
  | recursion
  | range
deriving DecidableEq

structure PatternError where
  position : Nat
  fault : Fault
deriving DecidableEq

def Fault.message : Fault → String
  | .wildcards => "wildcards are either regular `*` or recursive `**`"
  | .recursion => "recursive wildcards must form a single path component"
  | .range => "invalid range pattern"

def PatternError.message (e : PatternError) : String :=
  "Pattern syntax error near position " ++ toString e.position ++ ": " ++ e.fault.message

/-- The items of a class: `x-y` is a range where two characters follow, all else stands for
itself. -/
def classItems : List Char → List ClassItem
  | a :: '-' :: b :: cs => .range a b :: classItems cs
  | c :: cs => .char c :: classItems cs
  | [] => []

/-- The text up to the first closing bracket, and the text after it. -/
def closeClass? : List Char → Option (List Char × List Char)
  | [] => none
  | c :: cs => if c = ']' then some ([], cs) else (closeClass? cs).map fun (a, b) => (c :: a, b)

theorem length_of_closeClass? {cs a b : List Char} (h : closeClass? cs = some (a, b)) :
    b.length < cs.length := by
  induction cs generalizing a b with
  | nil => simp [closeClass?] at h
  | cons c cs ih =>
    simp only [closeClass?] at h
    split at h
    · simp_all
    · obtain ⟨⟨a', b'⟩, h', heq⟩ := Option.map_eq_some_iff.1 h
      cases heq
      exact Nat.lt_succ_of_lt (ih h')

/-- A class after its opening bracket. The first character inside never closes it. -/
def class? : List Char → Option (Token × List Char)
  | '!' :: c :: cs => (closeClass? cs).map fun (a, b) => (.except (classItems (c :: a)), b)
  | '!' :: [] => none
  | c :: cs => (closeClass? cs).map fun (a, b) => (.within (classItems (c :: a)), b)
  | [] => none

theorem length_of_class? {cs rest : List Char} {t : Token} (h : class? cs = some (t, rest)) :
    rest.length < cs.length := by
  unfold class? at h
  split at h
  · obtain ⟨⟨a, b⟩, h', heq⟩ := Option.map_eq_some_iff.1 h
    cases heq
    have := length_of_closeClass? h'
    simp; omega
  · simp at h
  · obtain ⟨⟨a, b⟩, h', heq⟩ := Option.map_eq_some_iff.1 h
    cases heq
    have := length_of_closeClass? h'
    simp; omega
  · simp at h

/-- Reads the text that stands at `position`, where `opening` says whether a component begins
there. -/
def tokensFrom (position : Nat) (opening : Bool) (cs : List Char) :
    Except PatternError (List Token) :=
  match cs with
  | [] => .ok []
  | '?' :: cs => (tokensFrom (position + 1) false cs).map (.anyChar :: ·)
  | '*' :: '*' :: '*' :: _ => .error ⟨position + 2, .wildcards⟩
  | '*' :: '*' :: cs =>
    if !opening then .error ⟨position - 1, .recursion⟩
    else match cs with
      | [] => .ok [.anyDepth]
      | '/' :: cs => (tokensFrom (position + 3) true cs).map (.anyDepth :: ·)
      | _ => .error ⟨position + 2, .recursion⟩
  | '*' :: cs => (tokensFrom (position + 1) false cs).map (.anySequence :: ·)
  | '[' :: cs =>
    match h : class? cs with
    | none => .error ⟨position, .range⟩
    | some (t, rest) =>
      have := length_of_class? h
      (tokensFrom (position + 1 + (cs.length - rest.length)) false rest).map (t :: ·)
  | c :: cs => (tokensFrom (position + 1) (c = '/') cs).map (.char c :: ·)
termination_by cs.length

def tokens (pattern : String) : Except PatternError (List Token) :=
  tokensFrom 0 true pattern.toList

def ClassItem.admits (c : Char) : ClassItem → Bool
  | .char d => c = d
  | .range first last => first ≤ c && c ≤ last

/-- Whether a token stands for the single character `c`. -/
def Token.admits (c : Char) : Token → Bool
  | .char d => c = d
  | .anyChar => true
  | .within items => items.any (·.admits c)
  | .except items => !items.any (·.admits c)
  | .anySequence | .anyDepth => false

/-- Whether a whole name fits. A sequence takes any number of characters. -/
def fits : List Token → List Char → Bool
  | [], cs => cs.isEmpty
  | .anySequence :: ts, [] => fits ts []
  | .anySequence :: ts, c :: cs => fits ts (c :: cs) || fits (.anySequence :: ts) cs
  | _ :: _, [] => false
  | t :: ts, c :: cs => t.admits c && fits ts cs
termination_by ts cs => ts.length + cs.length

/-- The text of a pattern that holds literal characters only. -/
def literal? : List Token → Option (List Char)
  | [] => some []
  | .char c :: ts => (literal? ts).map (c :: ·)
  | _ :: _ => none

/-- A text as a pattern for itself. -/
def escape (s : String) : String :=
  String.ofList <| s.toList.flatMap fun c =>
    if c ∈ ['?', '*', '[', ']'] then ['[', c, ']'] else [c]

end Dirlang.Glob

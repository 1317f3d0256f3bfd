import PackageRegistry.Unicode.CombiningClass
import PackageRegistry.Unicode.Decomposition

/-!
The composed form of a text. Texts that are shown alike have the same composed form: every character
is taken apart, the marks behind a letter are put in the order of their classes, and letters and
marks are put together again as far as there are characters for them.
-/

namespace PackageRegistry.Unicode

/-- Puts a mark behind the marks of its class and of lower ones. -/
def insertMark (m : Char) : List Char → List Char
  | [] => [m]
  | n :: ns =>
    if combiningClass n ≤ combiningClass m then n :: insertMark m ns else m :: n :: ns

/-- Puts marks in order; `marks` are those since the last character of class zero. -/
def orderMarks (marks : List Char) : List Char → List Char
  | [] => marks
  | c :: cs =>
    if combiningClass c = 0 then marks ++ c :: orderMarks [] cs
    else orderMarks (insertMark c marks) cs

/-- The text taken apart, with its marks in order. -/
def decomposed (cs : List Char) : List Char := orderMarks [] (cs.flatMap decomposition)

/-- A character being put together: its parts so far, and the marks behind it that did not join. -/
structure Cluster where
  parts : List Char
  loose : List Char

namespace Cluster

def text (k : Cluster) : List Char := (composite? k.parts).toList ++ k.loose

/-- Whether a mark of the same class stands in the way of a character. -/
def blocks (k : Cluster) (c : Char) : Bool :=
  match k.loose.getLast? with
  | some m => combiningClass c ≤ combiningClass m
  | none => false

/-- The cluster with one more part, if the parts then still make a character. -/
def join? (k : Cluster) (c : Char) : Option Cluster :=
  if k.blocks c then none
  else (composite? (k.parts ++ [c])).map fun _ => { k with parts := k.parts ++ [c] }

end Cluster

/-- Puts the characters of a text in order together behind those of a cluster. -/
def composeFrom (k : Cluster) : List Char → List Char
  | [] => k.text
  | c :: cs =>
    match k.join? c with
    | some k => composeFrom k cs
    | none =>
      if combiningClass c = 0 then k.text ++ composeFrom ⟨[c], []⟩ cs
      else composeFrom { k with loose := k.loose ++ [c] } cs

/-- Puts a text in order together; marks in front of the first letter stay as they are. -/
def compose : List Char → List Char
  | [] => []
  | c :: cs => if combiningClass c = 0 then composeFrom ⟨[c], []⟩ cs else c :: compose cs

/-- The composed form of a text. -/
def composed (cs : List Char) : List Char := compose (decomposed cs)

end PackageRegistry.Unicode

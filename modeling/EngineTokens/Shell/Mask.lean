import EngineTokens.Shell.Command

/-!
# Permissions in symbols

The permissions of a file's owner, its group and all others are three digits from zero to seven. A
text such as `u=rwx,g-w` changes them clause by clause: whom it speaks of, a sign, and what is
granted or taken, where the letter of a class stands for what that class has.
-/

set_option autoImplicit false

namespace EngineTokens.Shell

/-- What the owner, the group and all others may do, each as read, write and run worth 4, 2 and 1. -/
structure Permissions where
  owner : Nat
  group : Nat
  others : Nat
  deriving DecidableEq, Repr

namespace Permissions

/-- The permissions that a number stands for. -/
def ofNat (n : Nat) : Permissions :=
  ⟨n / 64 % 8, n / 8 % 8, n % 8⟩

/-- The permissions as a number. -/
def toNat (p : Permissions) : Nat :=
  64 * p.owner + 8 * p.group + p.others

/-- What is left of all permissions where some are taken. -/
def opposite (p : Permissions) : Permissions :=
  ⟨7 - p.owner, 7 - p.group, 7 - p.others⟩

/-- Each class as read, write and run. -/
def symbols (p : Permissions) : ByteText :=
  let granted (n : Nat) : ByteText := [(4, 'r'), (2, 'w'), (1, 'x')].filterMap fun (bit, letter) =>
    if n / bit % 2 = 1 then some letter else none
  "u=".toList ++ granted p.owner ++ ",g=".toList ++ granted p.group ++ ",o=".toList ++
    granted p.others

/-- A class after a sign with what it grants or takes. -/
def changed (sign : Char) (n amount : Nat) : Nat :=
  if sign = '+' then n ||| amount
  else if sign = '-' then n &&& (7 - amount)
  else amount

/-- The permissions of the classes that are spoken of, after a sign; nobody named means everybody. -/
def change (p : Permissions) (who : List Char) (sign : Char) (amount : Nat) : Permissions :=
  let isMeant (c : Char) : Bool := who.isEmpty || who.contains c || who.contains 'a'
  { owner := if isMeant 'u' then changed sign p.owner amount else p.owner
    group := if isMeant 'g' then changed sign p.group amount else p.group
    others := if isMeant 'o' then changed sign p.others amount else p.others }

/-- What a letter grants or takes; a capital `X` counts where anybody may run the file. -/
def worth (p : Permissions) : Char → Nat
  | 'r' => 4
  | 'w' => 2
  | 'x' => 1
  | 'X' => if (p.owner ||| p.group ||| p.others) % 2 = 1 then 1 else 0
  | 'u' => p.owner
  | 'g' => p.group
  | 'o' => p.others
  | _ => 0

/-- Reads a text from the place after whom a clause speaks of. -/
def signsFrom (before : Permissions) : (fuel : Nat) → (who : List Char) → (isFirst : Bool) →
    Permissions → ByteText → Option Permissions
  | 0, _, _, _, _ => none
  | fuel + 1, who, isFirst, p, text =>
    match text with
    | [] => if isFirst then none else some p
    | ',' :: rest =>
      if isFirst then none
      else if rest.isEmpty then some p
      else
        let who := rest.takeWhile ['u', 'g', 'o', 'a'].contains
        signsFrom before fuel who true p (rest.drop who.length)
    | sign :: rest =>
      if ['+', '-', '='].contains sign then
        let letters := rest.takeWhile ['r', 'w', 'x', 'X', 's', 'u', 'g', 'o'].contains
        let amount := letters.foldl (fun n c => n ||| before.worth c) 0
        signsFrom before fuel who false (p.change who sign amount) (rest.drop letters.length)
      else none

/-- The permissions after a text of clauses; `none` if the text has another form. -/
def after? (p : Permissions) (text : ByteText) : Option Permissions :=
  if text.isEmpty then some p
  else
    let who := text.takeWhile ['u', 'g', 'o', 'a'].contains
    signsFrom p (text.length + 1) who true p (text.drop who.length)

end Permissions

end EngineTokens.Shell

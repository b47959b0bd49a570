import RevisionGraph.Files.Tree

/-!
# Rights in letters

Rights are written as letters, as `rwxr-xr-x`, or as clauses like `u=rwx,g+w` that say how they
differ from given ones.
-/

set_option autoImplicit false

namespace RevisionGraph.Rights

/-- All rights, those of programs that run as their owner included. -/
def all : Nat := 0o7777

/-- Rights without some others. -/
def without (rights others : Nat) : Nat := rights &&& (all ^^^ (others &&& all))

/-- The rights of somebody as letters. -/
def letters (rights : Nat) : String :=
  (if rights &&& 4 != 0 then "r" else "") ++ (if rights &&& 2 != 0 then "w" else "") ++
    (if rights &&& 1 != 0 then "x" else "")

/-- All rights in nine letters, with a hyphen for each that lacks. -/
def text (rights : Nat) : String :=
  let shown (mark : Nat) (c : Char) : Char := if rights &&& mark != 0 then c else '-'
  let ending (mark special : Nat) (with_ without_ : Char) : Char :=
    match rights &&& mark != 0, rights &&& special != 0 with
    | true, true => with_
    | false, true => without_
    | true, false => 'x'
    | false, false => '-'
  String.ofList [shown 0o400 'r', shown 0o200 'w', ending 0o100 0o4000 's' 'S',
    shown 0o40 'r', shown 0o20 'w', ending 0o10 0o2000 's' 'S',
    shown 0o4 'r', shown 0o2 'w', ending 0o1 0o1000 't' 'T']

/-- The rights of the people that a letter means. -/
def ofPeople : Char → Nat
  | 'u' => 0o4700
  | 'g' => 0o2070
  | 'o' => 0o1007
  | _ => all

/-- The rights that a letter means for everybody, where `given` are those that there are. -/
def ofLetter (given : Nat) (directory : Bool) : Char → Nat
  | 'r' => 0o444
  | 'w' => 0o222
  | 'x' => 0o111
  | 'X' => if directory || given &&& 0o111 != 0 then 0o111 else 0
  | 's' => 0o6000
  | 't' => 0o1000
  | 'u' => given / 64 % 8 * 0o111
  | 'g' => given / 8 % 8 * 0o111
  | 'o' => given % 8 * 0o111
  | _ => 0

/-- A way to change rights. -/
structure Change where
  /-- a directory is changed -/
  directory : Bool := false
  /-- the rights that a clause may give to nobody in particular -/
  allowed : Nat := all

/-- Changes rights by clauses, `who` being those that the clause is about; the bound is on the
length of the text. -/
def Change.applyFor? (change : Change) : Nat → (who rights : Nat) → List Char → Option Nat
  | 0, _, rights, _ => some rights
  | _ + 1, _, _, [] => none
  | n + 1, who, rights, cs =>
    let people := cs.takeWhile fun c ↦ "augo".toList.contains c
    let who := people.foldl (fun w c ↦ w ||| ofPeople c) who
    match cs.drop people.length with
    | sign :: rest =>
      if !"=+-".toList.contains sign then none
      else
        let shown := rest.takeWhile fun c ↦ "rwxugoXst".toList.contains c
        let value := shown.foldl (fun v c ↦ v ||| ofLetter rights change.directory c) 0
        let value := value &&& (if who = 0 then change.allowed else who)
        let after := match sign with
          | '-' => without rights value
          | '+' => rights ||| value
          | _ => without rights (if who = 0 then all else who) ||| value
        match rest.drop shown.length with
        | [] => some after
        | ',' :: more => change.applyFor? n 0 after more
        | more => change.applyFor? n who after more
    | [] => none

/-- Changes rights by clauses, or by an octal number. -/
def Change.result? (change : Change) (rights : Nat) (clauses : String) : Option Nat :=
  let cs := clauses.toList
  if !cs.isEmpty && cs.all (fun c ↦ '0' ≤ c && c ≤ '7') then
    let n := Nat.ofDigitChars 8 cs 0
    if n ≤ all then some n else none
  else change.applyFor? (cs.length + 1) 0 rights cs

end RevisionGraph.Rights

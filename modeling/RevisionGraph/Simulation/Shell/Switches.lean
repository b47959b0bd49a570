/-!
# Switches of a shell

What a shell is started with, or what `set` changes: switches are letters that are turned on by a
hyphen and off by a plus sign, or long names after the letter `o`.  `Selection.read` splits
arguments into switches and operands, and `shown` is the text of the switches that are on.

`length_ofLetters` says that the arguments after a word never become more, which is why reading
ends.
-/

set_option autoImplicit false

namespace RevisionGraph.Shell

/-- What is done about switches. -/
inductive Switch where
  /-- one is turned on or off -/
  | turned (letter : Char) (on : Bool)
  /-- all are listed, as a table or as the commands that turn them -/
  | listed (asTable : Bool)

namespace Switch

/-- The long names of the switches that have a letter, in the order in which they are listed. -/
def longNames : List (String × Char) := [
  ("errexit", 'e'), ("noglob", 'f'), ("ignoreeof", 'I'), ("interactive", 'i'), ("monitor", 'm'),
  ("noexec", 'n'), ("stdin", 's'), ("xtrace", 'x'), ("verbose", 'v'), ("vi", 'V'), ("emacs", 'E'),
  ("noclobber", 'C'), ("allexport", 'a'), ("notify", 'b'), ("nounset", 'u'), ("privileged", 'p')]

/-- The long names of the switches that have no letter. -/
def letterless : List String := ["nolog", "debug"]

/-- The letters of the switches. -/
def letters : List Char := longNames.map Prod.snd

/-- The letters of the switches that are on, the last of the list first. -/
def shown (on : List Char) : String := String.ofList (letters.reverse.filter on.contains)

/-- The letters that are on after some switches were turned. -/
def turn (on : List Char) (switches : List Switch) : List Char :=
  switches.foldl (fun on s ↦ match s with
    | .turned letter true => if on.contains letter then on else letter :: on
    | .turned letter false => on.filter (· != letter)
    | .listed _ => on) on

/-- The switches of a long name; none if it is unknown. -/
def named? (name : String) (on : Bool) : Option (List Switch) :=
  if letterless.contains name then some []
  else (longNames.find? fun e ↦ e.1 == name).map fun e ↦ [.turned e.2 on]

/-- All switches with whether they are on, as a table or as the commands that turn them. -/
def listing (on : List Char) (asTable : Bool) : String :=
  let states := longNames.map (fun e ↦ (e.1, on.contains e.2)) ++ letterless.map (·, false)
  let line (e : String × Bool) : String :=
    if asTable then e.1.pushn ' ' (16 - e.1.length) ++ (if e.2 then "on" else "off") ++ "\n"
    else "set " ++ (if e.2 then "-o " else "+o ") ++ e.1 ++ "\n"
  (if asTable then "Current option settings\n" else "") ++ String.join (states.map line)

/-- The switches of the letters of one argument, and the arguments after it.  A letter `o` takes one
of these as a long name.  A shell that starts knows two letters more: `c`, whose first operand is
the script, and `l`. -/
def ofLetters (starting on : Bool) :
    List Char → List String → Except String (List Switch × List String)
  | [], rest => .ok ([], rest)
  | 'o' :: more, [] => (ofLetters starting on more []).map fun r ↦ (.listed on :: r.1, r.2)
  | 'o' :: more, name :: rest =>
    match named? name on with
    | none => .error s!"Illegal option -o {name}"
    | some switches => (ofLetters starting on more rest).map fun r ↦ (switches ++ r.1, r.2)
  | letter :: more, rest =>
    if letters.contains letter || (starting && (letter = 'c' || letter = 'l')) then
      (ofLetters starting on more rest).map fun r ↦ (.turned letter on :: r.1, r.2)
    else .error s!"Illegal option -{letter}"

theorem length_ofLetters {starting on : Bool} {letters : List Char} {arguments : List String}
    {r : List Switch × List String} (h : ofLetters starting on letters arguments = .ok r) :
    r.2.length ≤ arguments.length := by
  fun_induction ofLetters starting on letters arguments generalizing r with
  | case1 rest => cases h; exact Nat.le_refl _
  | case2 more ih =>
    cases hr : ofLetters starting on more [] with
    | error => rw [hr] at h; cases h
    | ok value => rw [hr] at h; cases h; exact ih (r := value) hr
  | case3 => cases h
  | case4 more name rest switches _ ih =>
    cases hr : ofLetters starting on more rest with
    | error => rw [hr] at h; cases h
    | ok value =>
      rw [hr] at h
      cases h
      exact Nat.le_succ_of_le (ih (r := value) hr)
  | case5 letter more rest _ _ _ ih =>
    cases hr : ofLetters starting on more rest with
    | error => rw [hr] at h; cases h
    | ok value => rw [hr] at h; cases h; exact ih (r := value) hr
  | case6 => cases h

end Switch

/-- What the arguments of a shell, or of `set`, choose.  `closed` tells that a hyphen, or two, stand
between the switches and the operands. -/
structure Selection where
  switches : List Switch
  operands : List String
  closed : Option String := none

namespace Selection

/-- Reads the switches at the start of words. -/
def read (starting : Bool) : List String → Except String Selection
  | [] => .ok ⟨[], [], none⟩
  | word :: rest =>
    if word = "-" || word = "--" then .ok ⟨[], rest, some word⟩
    else match word.toList with
      | sign :: letters =>
        if sign != '-' && sign != '+' then .ok ⟨[], word :: rest, none⟩
        else match h : Switch.ofLetters starting (sign = '-') letters rest with
          | .error why => .error why
          | .ok (switches, after) =>
            have : after.length ≤ rest.length := Switch.length_ofLetters h
            (read starting after).map fun s ↦ { s with switches := switches ++ s.switches }
      | [] => .ok ⟨[], word :: rest, none⟩
  termination_by arguments => arguments.length

end Selection

end RevisionGraph.Shell

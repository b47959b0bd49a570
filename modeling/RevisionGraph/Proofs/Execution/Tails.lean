import RevisionGraph.Execution.Runner
import RevisionGraph.Proofs.Result

/-!
# The tails of what a command wrote

An outcome is to keep the last characters of both outputs, so that a command that writes without end
does not make it grow.  A tail of `n` characters is cut off by counting from the end of a text, and
that goes wrong at one number: counted from the end, no characters at all are as many as there are.

* **Texts.**  `Text.IsTail` says what the last `n` characters of a text are; by `isTail_tail_iff` a
  tail is just that unless none of the characters was asked for.
* **Outcomes.**  `Remains.KeepsTails` says so of both outputs of a process, however it ended, and
  `keepsTails_iff` says when it holds.
-/

set_option autoImplicit false

namespace RevisionGraph

namespace Text

/-- The text is what the last `n` characters of another come to, which are all of them if it has no
more. -/
structure IsTail (n : Nat) (s t : String) : Prop where
  suffix : t.toList <:+ s.toList
  length_eq : t.length = min n s.length

/-- Without a character to keep, all are kept. -/
theorem tail_zero (s : String) : tail 0 s = s := by
  rw [tail, if_neg (Int.lt_irrefl 0)]
  exact String.ofList_toList

theorem toList_tail_of_pos {n : Nat} (hn : 0 < n) (s : String) :
    (tail n s).toList = s.toList.drop (s.length - n) := by
  have hpos : (0 : Int) < n := Int.natCast_pos.mpr hn
  rw [tail, if_pos hpos, String.toList_ofList, Int.toNat_natCast, String.length_toList]

/-- **A tail is what it should be unless it should be empty** and the text is not. -/
theorem isTail_tail_iff (n : Nat) (s : String) : IsTail n s (tail n s) ↔ n ≠ 0 ∨ s = "" := by
  rcases Nat.eq_zero_or_pos n with rfl | hn
  · have hall : tail ((0 : Nat) : Int) s = s := tail_zero s
    rw [hall]
    constructor
    · intro h
      have hlength : s.length = 0 := by simpa using h.length_eq
      exact .inr (String.length_eq_zero_iff.mp hlength)
    · rintro (hne | rfl)
      · exact absurd rfl hne
      · exact ⟨List.suffix_refl _, rfl⟩
  · have htail := toList_tail_of_pos hn s
    refine iff_of_true ⟨?_, ?_⟩ (.inl (Nat.ne_of_gt hn))
    · rw [htail]
      exact List.drop_suffix _ _
    · rw [← String.length_toList, htail, List.length_drop, String.length_toList]
      omega

end Text

namespace Execution

variable {options : Options} {cwd : Place} {command : Engine.Command} {files : FileTree}
  {r : Remains} {o : Engine.Outcome} {output errors : String}

/-- The outcome keeps the last `n` characters of both outputs, and no more. -/
def Remains.KeepsTails (r : Remains) (n : Nat) (o : Engine.Outcome) : Prop :=
  ∃ output errors, r.texts = .ok (output, errors) ∧ Text.IsTail n output o.output ∧
    Text.IsTail n errors o.errors

/-- An outcome is made of the texts of both outputs; a log does not matter to it. -/
theorem exists_texts_of_collect (h : (collect options cwd command files r).2 = .ok o) :
    ∃ output errors, r.texts = .ok (output, errors) ∧
      o = r.outcome options.tailLength output errors := by
  rw [collect] at h
  cases htexts : r.texts with
  | error e =>
    rw [htexts] at h
    cases h
  | ok texts =>
    obtain ⟨output, errors⟩ := texts
    simp only [htexts] at h
    refine ⟨output, errors, rfl, ?_⟩
    split at h
    · cases h
      rfl
    · split at h <;> cases h
      rfl

theorem keepsTails_outcome_iff (htexts : r.texts = .ok (output, errors)) (n : Nat) :
    r.KeepsTails n (r.outcome n output errors) ↔ n ≠ 0 ∨ r.texts = .ok ("", "") := by
  have hkeeps : r.KeepsTails n (r.outcome n output errors) ↔
      Text.IsTail n output (Text.tail n output) ∧ Text.IsTail n errors (Text.tail n errors) := by
    refine ⟨?_, fun htails ↦ ⟨output, errors, htexts, htails⟩⟩
    rintro ⟨output', errors', htexts', htails⟩
    obtain ⟨rfl, rfl⟩ := Prod.mk.inj (Except.ok.inj (htexts.symm.trans htexts'))
    exact htails
  rw [hkeeps, Text.isTail_tail_iff, Text.isTail_tail_iff, htexts, ← or_and_left]
  simp

/-- The outcome of a command is made of what the command left behind, however it was started. -/
theorem exists_start_of_run {start : Start} (h : (run start options cwd files command).2 = .ok o) :
    ∃ files' r, start files command = (files', .ok r) ∧
      (collect options cwd command files' r).2 = .ok o := by
  rw [run] at h
  rcases hstart : start files command with ⟨files', e | r⟩
  · rw [hstart] at h
    cases h
  · rw [hstart] at h
    exact ⟨files', r, rfl, h⟩

/-- **Tails are kept exactly if they are longer than nothing** or nothing was written, whether the
process ended by itself or was stopped.  Where no character is to be kept, the outcome holds both
outputs in full.  Of the commands that are run these are the outcomes, on any machine. -/
theorem keepsTails_iff (options : Options) (n : Nat) :
    (∀ cwd command files r o,
      (collect { options with tailLength := n } cwd command files r).2 = .ok o →
        (r.KeepsTails n o ↔ n ≠ 0 ∨ r.texts = .ok ("", "")) ∧
          (n = 0 → r.texts = .ok (o.output, o.errors))) ∧
    ∀ (start : Start) cwd files command o,
      (run start { options with tailLength := n } cwd files command).2 = .ok o →
        ∃ files' r, start files command = (files', .ok r) ∧
          (collect { options with tailLength := n } cwd command files' r).2 = .ok o := by
  refine ⟨fun cwd command files r o h ↦ ?_, fun start cwd files command o ↦ exists_start_of_run⟩
  obtain ⟨output, errors, htexts, rfl⟩ := exists_texts_of_collect h
  refine ⟨keepsTails_outcome_iff htexts n, ?_⟩
  rintro rfl
  have hall (s : String) : Text.tail ((0 : Nat) : Int) s = s := Text.tail_zero s
  simp only [Remains.outcome, hall, htexts]

/-- A process that wrote six characters. -/
def sampleRemains : Remains :=
  ⟨Text.Utf8.encode "abcdef", [], .exited 0, .ofInt 0⟩

/-- A command that writes six characters. -/
def sampleCommand : Engine.Command := ⟨["printf", "abcdef"], .here, .whole 1⟩

/-- **No character was to be kept of six**, and all six are. -/
theorem exists_not_keepsTails : ∃ o,
    (run (fun files _ ↦ (files, .ok sampleRemains)) { tailLength := 0 } [] .empty
        sampleCommand).2 = .ok o ∧
      o.output = "abcdef" ∧ ¬ sampleRemains.KeepsTails 0 o := by
  have htexts : sampleRemains.texts = .ok ("abcdef", "") := by decide +kernel
  refine ⟨sampleRemains.outcome 0 "abcdef" "", ?_, by decide +kernel, ?_⟩
  · simp only [run, collect, htexts]
  · rintro ⟨output, errors, htexts', htail, -⟩
    cases htexts.symm.trans htexts'
    have hlength := htail.length_eq
    revert hlength
    decide +kernel

end Execution

end RevisionGraph

import CallEdits.Proofs.RejoinedArguments
import Mathlib

/-!
# Proofs/SelfContained — splitting undoes joining

    blanks ( a, b, c ) rest   ──split──▸   [a, b, c], rest        for self-contained a, b, c

Whether texts can be joined and told apart again is decided by the scan alone.  A text is
*self-contained* if the scan of a call, started in front of it, is behind it in the state in which
it started, and has met no comma and no parenthesis of the call itself on the way.  Such a scan can
be closed at once, so what it has passed is one piece of the grammar (`SelfContained.piece`), and
pieces are found again with commas and spaces between them.
-/

namespace CallEdits.Call

namespace Scan

/-- Does this character divide two arguments of the call? -/
def divides (s : Scan) (c : Char) : Bool :=
  !s.escaped && !s.quoted && c == ',' && s.depth == 1

/-- **The scan over a text inside an argument.**  There is none if a character of the text divides
the arguments of the call or closes it. -/
def over? : Scan → Text → Option Scan
  | s, [] => some s
  | s, c :: r => if s.closes c || s.divides c then none else over? (s.step c) r

/-- What the scan goes by: the depth, and whether it is in a string or behind a backslash. -/
def state (s : Scan) : Nat × Bool × Bool := (s.depth, s.quoted, s.escaped)

end Scan

/-- **A self-contained text**: the scan that starts in front of it comes back to its state at the
end, inside one argument all the way; and the text has no blanks at its ends. -/
structure SelfContained (t : Text) : Prop where
  comesBack : (({} : Scan).over? t).map Scan.state = some ({} : Scan).state
  trimmed : t.trim = t

instance (t : Text) : Decidable (SelfContained t) :=
  decidable_of_iff (_ ∧ _) ⟨fun h => ⟨h.1, h.2⟩, fun h => ⟨h.comesBack, h.trimmed⟩⟩

variable {t : Text} {s s' : Scan} {c : Char}

/-! ## The scan over one argument -/

/-- The scan of a call goes on where the scan over a text ended. -/
theorem scan_of_over? (h : s.over? t = some s') (r : Text) : scan s (t ++ r) = scan s' r := by
  induction t generalizing s with
  | nil =>
    obtain rfl := Option.some.inj h
    rfl
  | cons c t ih =>
    rw [Scan.over?] at h
    split at h
    · exact nomatch h
    · rename_i hinside
      have hopen : ¬ s.closes c = true := fun hcloses => hinside (by rw [hcloses, Bool.true_or])
      rw [List.cons_append, scan, if_neg hopen]
      exact ih h

/-- A character that does not divide is kept, whatever else it does. -/
theorem Scan.step_keeps (h : s.divides c = false) :
    (s.step c).piece = c :: s.piece ∧ (s.step c).pieces = s.pieces := by
  obtain ⟨depth, quoted, escaped, piece, pieces, lines⟩ := s
  cases escaped with
  | true => exact ⟨by simp [step, keep, count_eq], by simp [step, keep, count_eq]⟩
  | false =>
    simp only [step, plain, count_eq, keep]
    repeat' split
    all_goals simp_all [divides]

/-- **The scan over a text keeps all of it** in the piece that it reads. -/
theorem Scan.over?_keeps (h : s.over? t = some s') :
    s'.piece = t.reverse ++ s.piece ∧ s'.pieces = s.pieces := by
  induction t generalizing s with
  | nil =>
    obtain rfl := Option.some.inj h
    exact ⟨rfl, rfl⟩
  | cons c t ih =>
    rw [over?] at h
    split at h
    · exact nomatch h
    · rename_i hinside
      have hkept : s.divides c = false := (Bool.or_eq_false_iff.mp (by simpa using hinside)).2
      obtain ⟨hpiece, hpieces⟩ := ih h
      rw [hpiece, hpieces, (step_keeps hkept).1, (step_keeps hkept).2]
      exact ⟨by simp, rfl⟩

/-! ## Self-contained texts are pieces -/

/-- **A self-contained text is a piece of the grammar.** -/
theorem SelfContained.piece (h : SelfContained t) : Piece t := by
  obtain ⟨s, hover, hstate⟩ := Option.map_eq_some_iff.mp h.comesBack
  obtain ⟨hpiece, hpieces⟩ := Scan.over?_keeps hover
  -- In the state in which it started, the scan takes a parenthesis for the one that closes it.
  have hclosed : scan {} (t ++ [')']) = .ok (s, []) := by
    obtain ⟨hdepth, hquoted, hescaped⟩ : s.depth = 1 ∧ s.quoted = false ∧ s.escaped = false := by
      simpa [Scan.state] using hstate
    simp [scan_of_over? hover, scan, Scan.closes, hdepth, hquoted, hescaped]
  obtain ⟨pieces, hne, hall, htext⟩ := pieces_of_scan _ _ _ _ hclosed
  obtain ⟨s', hscan, hdone, -⟩ := scan_pieces (r := []) pieces hne hall [] 0
  rw [← htext] at hscan
  obtain rfl : s = s' := congrArg Prod.fst (Except.ok.inj (hclosed.symm.trans hscan))
  have hone : pieces = [t] := by
    rw [← List.nil_append pieces, ← List.reverse_nil, ← hdone]
    simp [Scan.done, Scan.finish, hpiece, hpieces]
  exact hall t (hone ▸ List.mem_cons_self)

/-- **Splitting undoes joining.**  Self-contained texts that are joined between parentheses, with
blanks before and any text behind, are split into themselves and that text, and the breaks of the
blanks and of the texts are counted.  Only one empty text cannot be told from none. -/
theorem split_undoes_join {arguments : List Text} (hself : ∀ a ∈ arguments, SelfContained a)
    (hne : arguments ≠ [[]]) {blanks : Text} (hblanks : ∀ c ∈ blanks, Text.isBlank c = true)
    (rest : Text) :
    split (blanks ++ '(' :: (Policy.commaJoin arguments ++ ')' :: rest))
      = .ok ⟨arguments, rest, blanks.breaks + (arguments.map Text.breaks).sum⟩ :=
  split_commaJoin hne (fun a ha => (hself a ha).trimmed) (fun a ha => (hself a ha).piece) hblanks
    rest

/-- Empty arguments, a nested call with a string that looks like its end, and an escaped comma, on
three lines. -/
theorem split_undoes_join_nested :
    let arguments : List Text := [[], "g(\"),\",\n h(x))".toList, "\\,".toList, []]
    (∀ a ∈ arguments, SelfContained a)
      ∧ split "\n (, g(\"),\",\n h(x)), \\,, ); f(y);".toList
        = .ok ⟨arguments, "; f(y);".toList, 2⟩ := by
  intro arguments
  have hself : ∀ a ∈ arguments, SelfContained a := by decide
  have hblanks : ∀ c ∈ ['\n', ' '], Text.isBlank c = true :=
    List.forall_mem_cons.mpr ⟨by decide, List.forall_mem_singleton.mpr (by decide)⟩
  exact ⟨hself, split_undoes_join hself (by decide) hblanks "; f(y);".toList⟩

end CallEdits.Call

import CallEdits.Proofs.SmallLetters
import CallEdits.Proofs.TouchedFiles
import Mathlib

/-!
# Proofs/Declarations — which files a run passes over

A path holds declarations if it ends with one of the suffixes of the editor, once it is in small
letters; the suffixes are taken as they are.  These paths, and no others, are spared by every run
(`spares_iff`), so what a suffix is good for depends on whether it survives the small letters:

    suffix .h    a.h ──▸ a.h    a.H ──▸ a.h       both are spared
    suffix .H    a.h ──▸ a.h    a.H ──▸ a.h       neither is
-/

namespace CallEdits.Editor

open Session

variable {e : Editor} {path : Text}

/-- **A run spares a path**: all that it does it does for other paths that are listed.  The backup
of one of these may still land on the path, as where `.bak` is one of the suffixes. -/
def Spares (e : Editor) (path : Text) (locations : List Location) (s : Session) : Prop :=
  Confined {p | (∃ l ∈ locations, l.path = p) ∧ p ≠ path} s (e.run locations s).2

theorem isDeclaration_iff :
    e.isDeclaration path = true ↔ ∃ suffix ∈ e.declarationSuffixes, suffix <:+ path.lower := by
  simp only [isDeclaration, List.any_eq_true, List.isSuffixOf_iff_suffix]

/-- **A step loads its file** unless that holds declarations, whatever comes of it then. -/
theorem load_mem_log_replaceAt {s : Session} {backup : Bool} {location : Location}
    (hmode : s.store.mode = .inPlace backup) (hdecl : e.isDeclaration location.path = false)
    (index : Int) :
    .load (s.store.resolve location.path) ∈ (e.replaceAt location index s).2.log := by
  have hloaded : ∀ event, .load (s.store.resolve location.path)
      ∈ ((s.note event).load location.path).2.log := by
    intro event
    rw [load, show (s.note event).store.mode = _ from hmode]
    exact List.mem_cons_self
  obtain hend | ⟨edit, hend⟩ := e.replaceAt_snd index s hdecl
  · exact hend ▸ hloaded _
  · obtain ⟨log, hlog, -⟩ := (confined_commit (Set.mem_univ location.path)
      (s.shift location.path) _ edit).events
    rw [hend, hlog]
    exact List.mem_append_right log (hloaded _)

/-- A run over one location ends where its step ends, but for its last words. -/
theorem load_mem_log_run {s : Session} {backup : Bool} (location : Location)
    (hmode : s.store.mode = .inPlace backup) (hdecl : e.isDeclaration location.path = false) :
    .load (s.store.resolve location.path) ∈ (e.run [location] s).2.log := by
  have hstep := load_mem_log_replaceAt hmode hdecl 0
  rw [run, Location.sort, List.mergeSort_singleton, runFrom]
  rcases hresult : e.replaceAt location ([] : List Record).length s with ⟨failure | record?, t⟩
  · rwa [show e.replaceAt location 0 s = _ from hresult] at hstep
  · rw [show e.replaceAt location 0 s = _ from hresult] at hstep
    cases record? <;> exact List.mem_cons_of_mem _ hstep

/-- **A path is spared by every run if and only if it holds declarations.** -/
theorem spares_iff :
    (∀ locations s, e.Spares path locations s) ↔ e.isDeclaration path = true := by
  refine ⟨fun h => ?_, fun hdecl locations s => ?_⟩
  · by_contra hdecl
    obtain ⟨log, hlog, hfor⟩ := (h [⟨path, 1⟩] (inPlace false {} {} [])).events
    have hload := load_mem_log_run (s := inPlace false {} {} []) ⟨path, 1⟩ rfl
      (Bool.eq_false_iff.mpr hdecl)
    rw [hlog, show (inPlace false {} {} []).log = [] from rfl, List.append_nil] at hload
    obtain ⟨p, ⟨⟨l, hl, rfl⟩, hne⟩, -⟩ := hfor _ hload
    exact hne (congrArg Location.path (List.mem_singleton.mp hl))
  · refine (e.confined_run locations s).mono fun p hp => ⟨hp.1, ?_⟩
    rintro rfl
    exact Bool.eq_false_iff.mp hp.2 hdecl

/-- **Which paths a run leaves alone.**  A path is spared by every run if and only if its small
letters end with one of the suffixes.  Where all the suffixes are in small letters, that holds of
every path that ends with one of them; and a suffix that stands alone keeps all the paths that end
with it from being touched if and only if it is in small letters. -/
theorem run_spares_iff (e : Editor) :
    (∀ path, (∀ locations s, e.Spares path locations s)
        ↔ ∃ suffix ∈ e.declarationSuffixes, suffix <:+ path.lower)
      ∧ ((∀ suffix ∈ e.declarationSuffixes, suffix.lower = suffix) →
          ∀ path, (∃ suffix ∈ e.declarationSuffixes, suffix <:+ path) →
            ∀ locations s, e.Spares path locations s)
      ∧ ∀ suffix, e.declarationSuffixes = [suffix] →
          ((∀ path, suffix <:+ path → ∀ locations s, e.Spares path locations s)
            ↔ suffix.lower = suffix) := by
  have hspares : ∀ path, (∀ locations s, e.Spares path locations s)
      ↔ ∃ suffix ∈ e.declarationSuffixes, suffix <:+ path.lower :=
    fun path => spares_iff.trans isDeclaration_iff
  refine ⟨hspares, ?_, fun suffix hsuffix => ?_⟩
  · rintro hsmall path ⟨suffix, hsuffix, hends⟩
    have hlower := Text.suffix_lower_iff.mpr (hsmall suffix hsuffix) path hends
    exact (hspares path).mpr ⟨suffix, hsuffix, hlower⟩
  · rw [← Text.suffix_lower_iff]
    refine forall_congr' fun path => imp_congr_right fun _ => ?_
    rw [hspares, hsuffix]
    simp only [List.mem_singleton, exists_eq_left]

/-- A suffix with a capital: the path that ends with it is loaded and written like any other. -/
theorem run_spares_iff_capital :
    let e : Editor := ⟨['f'], Policy.apply (.leading {}), [".H".toList]⟩
    let path : Text := "a.H".toList
    let s := inPlace false ⟨[([path], .file (Utf8.encode "f(a);\n".toList))], []⟩ {} "utf-8".toList
    ".H".toList <:+ path ∧ Text.lower ".H".toList = ".h".toList
      ∧ (e.run [⟨path, 1⟩] s).2.disk.read (Path.ofText path)
        = .ok (Utf8.encode "f(ERR_0, a);\n".toList)
      ∧ ¬ ∀ locations s, e.Spares path locations s := by
  intro e path s
  have hsmall : Text.lower ".H".toList = ".h".toList := by cbv
  have hwritten : (e.run [⟨path, 1⟩] s).2.disk.read (Path.ofText path)
      = .ok (Utf8.encode "f(ERR_0, a);\n".toList) := by
    dsimp only [s, e, path]
    cbv
  have hlower : path.lower = "a.h".toList := by
    dsimp only [path]
    cbv
  refine ⟨⟨['a'], rfl⟩, hsmall, hwritten, fun hspares => ?_⟩
  obtain ⟨suffix, hmem, hends⟩ := ((run_spares_iff e).1 path).mp hspares
  rw [List.mem_singleton.mp hmem, hlower] at hends
  exact absurd hends (by decide)

end CallEdits.Editor

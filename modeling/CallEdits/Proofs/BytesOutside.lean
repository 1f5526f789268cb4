import CallEdits.Proofs.Regions
import CallEdits.Proofs.RunSteps
import CallEdits.Proofs.WriteOutcomes
import Mathlib

/-!
# Proofs/BytesOutside — a replaced call is all that changes in its file

    old   ‹mark› head ┆  call   ┆ tail
    new   ‹mark› head ┆ written ┆ tail

A text is edited, but a file is bytes, and all of them are written anew.  That the bytes around the
call come out as they were takes three facts: what was decoded is encoded again into the same bytes
(`encode_unsigned_of_decode`), a text is encoded part by part (`encode_append_eq_ok_iff`), and
an edit exchanges one part.

The mark is the one exception.  UTF-8 with a signature writes its byte-order mark in front of every
file, and reads files that have none; such a file gains three bytes.
-/

namespace CallEdits

namespace Encoding

/-! ## A text in parts -/

/-- The encoding of the characters alone. -/
def unsigned : Encoding → Encoding
  | utf8Signed => utf8
  | encoding => encoding

/-- The byte-order mark that is written in front of a file. -/
def mark : Encoding → Bytes
  | utf8Signed => signature
  | _ => []

/-- The byte-order mark that a file begins with, as far as the encoding knows of it. -/
def markOf (encoding : Encoding) (bytes : Bytes) : Bytes :=
  if signature.isPrefixOf bytes then encoding.mark else []

variable {encoding : Encoding} {limit : Nat} {bytes : Bytes} {t a b : Text}

/-- Only a file that lacks the mark of its encoding gains one. -/
theorem markOf_eq_mark (h : encoding ≠ utf8Signed ∨ signature <+: bytes) :
    encoding.markOf bytes = encoding.mark := by
  rcases h with h | h
  · cases encoding with
    | utf8Signed => exact absurd rfl h
    | _ => exact ite_self []
  · exact if_pos (List.isPrefixOf_iff_prefix.mpr h)

theorem encodeNarrow_eq_ok_iff :
    encodeNarrow encoding limit t = .ok bytes
      ↔ (∀ c ∈ t, c.toNat < limit) ∧ bytes = t.map fun c => c.toNat.toUInt8 := by
  refine ⟨encodeNarrow_eq_ok, ?_⟩
  rintro ⟨hnarrow, rfl⟩
  have hall : t.takeWhile (fun c => c.toNat < limit) = t :=
    List.takeWhile_eq_self_iff.mpr fun c hc => decide_eq_true (hnarrow c hc)
  simp only [encodeNarrow, hall, List.drop_length]

/-- A file is its mark and its characters. -/
theorem encode_eq_ok_iff :
    encoding.encode t = .ok bytes
      ↔ ∃ content, encoding.unsigned.encode t = .ok content ∧ bytes = encoding.mark ++ content := by
  cases encoding <;> simp [unsigned, encode, mark, eq_comm]

/-- **A text is encoded part by part.** -/
theorem encode_append_eq_ok_iff :
    encoding.unsigned.encode (a ++ b) = .ok bytes
      ↔ ∃ x y, encoding.unsigned.encode a = .ok x ∧ encoding.unsigned.encode b = .ok y
        ∧ bytes = x ++ y := by
  have hutf8 : utf8.encode (a ++ b) = .ok bytes
      ↔ ∃ x y, utf8.encode a = .ok x ∧ utf8.encode b = .ok y ∧ bytes = x ++ y := by
    simp [encode, Utf8.encode, eq_comm]
  have hnarrow : ∀ {encoding : Encoding} {limit : Nat},
      encodeNarrow encoding limit (a ++ b) = .ok bytes
        ↔ ∃ x y, encodeNarrow encoding limit a = .ok x ∧ encodeNarrow encoding limit b = .ok y
          ∧ bytes = x ++ y := by
    intro encoding limit
    simp only [encodeNarrow_eq_ok_iff, List.mem_append, List.map_append]
    constructor
    · rintro ⟨hall, rfl⟩
      exact ⟨_, _, ⟨fun c hc => hall c (.inl hc), rfl⟩, ⟨fun c hc => hall c (.inr hc), rfl⟩, rfl⟩
    · rintro ⟨_, _, ⟨ha, rfl⟩, ⟨hb, rfl⟩, rfl⟩
      exact ⟨fun c hc => hc.elim (ha c) (hb c), rfl⟩
  cases encoding with
  | utf8 => exact hutf8
  | utf8Signed => exact hutf8
  | ascii => exact hnarrow
  | latin1 => exact hnarrow

/-- **A file with text in it is encoded again into its bytes**, its mark apart. -/
theorem encode_unsigned_of_decode (h : encoding.decode bytes = .ok t) (ht : t ≠ []) :
    ∃ content, encoding.unsigned.encode t = .ok content
      ∧ bytes = encoding.markOf bytes ++ content := by
  by_cases hsigned : encoding = utf8Signed
  · subst hsigned
    have hutf8 : ∀ {content : Bytes}, utf8.decode content = .ok t → utf8.encode t = .ok content :=
      fun hdecode => encode_of_decode (by decide) hdecode
    rw [decode] at h
    split at h
    · exact absurd (Except.ok.inj h).symm ht
    split at h
    · rename_i hmarked
      obtain ⟨rest, rfl⟩ := List.isPrefixOf_iff_prefix.mp hmarked
      refine ⟨rest, hutf8 h, ?_⟩
      rw [markOf, if_pos hmarked, mark]
    · rename_i hmarked
      refine ⟨bytes, hutf8 h, ?_⟩
      rw [markOf, if_neg hmarked, List.nil_append]
  · have hplain : encoding.unsigned = encoding ∧ encoding.mark = [] := by
      cases encoding with
      | utf8Signed => exact absurd rfl hsigned
      | _ => exact ⟨rfl, rfl⟩
    refine ⟨bytes, ?_, ?_⟩
    · rw [hplain.1]
      exact encode_of_decode hsigned h
    · rw [markOf, hplain.2, ite_self, List.nil_append]

/-- **One stretch of a file was exchanged**: the file held a text in three parts, and the bytes of
the second part have given way to those of a replacement. -/
def Exchanges (encoding : Encoding) (before call replacement after : Text) (old new : Bytes) :
    Prop :=
  ∃ head inside written tail,
    encoding.unsigned.encode before = .ok head ∧ encoding.unsigned.encode call = .ok inside
      ∧ encoding.unsigned.encode replacement = .ok written
      ∧ encoding.unsigned.encode after = .ok tail
      ∧ old = encoding.markOf old ++ (head ++ (inside ++ tail))
      ∧ new = encoding.mark ++ (head ++ (written ++ tail))

/-- **A text that was decoded, changed in one part and encoded again** exchanges the bytes of that
part. -/
theorem exchanges_of_encode {before call replacement after : Text} {old new : Bytes}
    (hne : before ++ (call ++ after) ≠ [])
    (hold : encoding.decode old = .ok (before ++ (call ++ after)))
    (hnew : encoding.encode (before ++ (replacement ++ after)) = .ok new) :
    encoding.Exchanges before call replacement after old new := by
  obtain ⟨content, hcontent, hold'⟩ := encode_unsigned_of_decode hold hne
  obtain ⟨head, _, hhead, hrest, rfl⟩ := encode_append_eq_ok_iff.mp hcontent
  obtain ⟨inside, tail, hinside, htail, rfl⟩ := encode_append_eq_ok_iff.mp hrest
  obtain ⟨content', hcontent', hnew'⟩ := encode_eq_ok_iff.mp hnew
  obtain ⟨head', _, hhead', hrest', rfl⟩ := encode_append_eq_ok_iff.mp hcontent'
  obtain ⟨written, tail', hwritten, htail', rfl⟩ := encode_append_eq_ok_iff.mp hrest'
  obtain rfl := Except.ok.inj (hhead.symm.trans hhead')
  obtain rfl := Except.ok.inj (htail.symm.trans htail')
  exact ⟨head, inside, written, tail, hhead, hinside, hwritten, htail, hold', hnew'⟩

end Encoding

/-! ## The bytes that a write leaves -/

namespace Session

variable {s s' : Session} {path code : Text} {backup : Bool}

theorem read_of_writeFile (h : s.writeFile path code = (.ok (), s')) :
    ∃ e content, Encoding.ofName? s.store.encoding = some e ∧ e.encode code = .ok content
      ∧ s'.disk.read (s.store.resolve path) = .ok content := by
  simp only [writeFile] at h
  split at h
  · cases (Prod.mk.inj h).1
  · rename_i disk hwrite
    obtain rfl := (Prod.mk.inj h).2
    obtain ⟨-, names, e, content, hleads, hname, hencode, rfl⟩ := Disk.writeText_eq_ok_iff.mp hwrite
    exact ⟨e, content, hname, hencode, hleads.read_put content⟩

/-- **A file that was written in place holds the bytes of the text.** -/
theorem read_of_write (hmode : s.store.mode = .inPlace backup)
    (h : s.write path code = (.ok (), s')) :
    ∃ e content, Encoding.ofName? s.store.encoding = some e ∧ e.encode code = .ok content
      ∧ s'.disk.read (s.store.resolve path) = .ok content := by
  rw [write_inPlace hmode, secure] at h
  split at h
  · rename_i t hsecure
    cases (Prod.mk.inj h).1
  · rename_i t hsecure
    split at hsecure
    · -- The backup keeps where the path leads and how files are encoded.
      obtain ⟨-, -, -, -, hstore⟩ := backUp_eq_ok hsecure
      have hwritten := read_of_writeFile h
      rwa [hstore] at hwritten
    · obtain rfl := (Prod.mk.inj hsecure).2
      exact read_of_writeFile h

end Session

namespace Editor

open Call

variable {e : Editor} {location : Location} {index : Int} {s s' : Session} {backup : Bool}

/-- **A replaced call is all that changes in its file.**  A location that succeeds leaves every
file as it was, if its own file holds declarations.  Else the bytes of the call, from the name
through the closing parenthesis, have given way to those of the replacement, and the bytes before
and after are the same; only a byte-order mark is added to a file that had none, where the encoding
asks for one. -/
theorem replaceAt_changes_only_the_call (hmode : s.store.mode = .inPlace backup)
    {r : Option Record} (h : e.replaceAt location index s = (.ok r, s')) :
    r = none ∧ s'.disk = s.disk
      ∨ ∃ record encoding old new code g, r = some record
        ∧ Encoding.ofName? s.store.encoding = some encoding
        ∧ s.disk.read (s.store.resolve location.path) = .ok old
        ∧ s'.disk.read (s.store.resolve location.path) = .ok new
        ∧ encoding.decode old = .ok code
        ∧ region? e.function code record.resolvedLine = some g
        ∧ encoding.Exchanges (code.take g.start) (g.text code) record.replacement
            (code.drop g.stop) old new
        ∧ (encoding ≠ .utf8Signed ∨ Encoding.signature <+: old →
            encoding.markOf old = encoding.mark) := by
  obtain ⟨log, ⟨-, hstep⟩ | ⟨-, failure, hstep, -⟩ | ⟨-, code, edit, hload, hedit, hstep⟩⟩ :=
    e.replaceAt_cases location index s
  · obtain ⟨hr, rfl⟩ := Prod.mk.inj (h.symm.trans hstep)
    exact .inl ⟨Except.ok.inj hr, rfl⟩
  · cases (Prod.mk.inj (h.symm.trans hstep)).1
  rw [h, commit] at hstep
  split at hstep
  · cases (Prod.mk.inj hstep).1
  rename_i t hwrite
  obtain ⟨hr, rfl⟩ := Prod.mk.inj hstep
  rw [Session.load, hmode] at hload
  obtain ⟨-, names, old, encoding, hleads, hget, hname, hdecode⟩ :=
    Disk.readText_eq_ok_iff.mp hload
  obtain ⟨encoding', new, hname', hencode, hnew⟩ :=
    Session.read_of_write (s := { s with log }) hmode hwrite
  obtain rfl := Option.some.inj (hname.symm.trans hname')
  obtain ⟨hone, -, g, replacement, hg, -, rfl⟩ := edit_eq_ok_iff.mp hedit
  obtain ⟨before, inner, rest, hparts⟩ := exists_parts_of_region? hone hg
  have hcode : code = code.take g.start ++ (g.text code ++ code.drop g.stop) := by
    rw [hparts.take_start, hparts.text_eq, hparts.drop_stop, List.append_assoc]
    exact hparts.code_eq.trans (by simp)
  have hne : code.take g.start ++ (g.text code ++ code.drop g.stop) ≠ [] := by
    rw [hparts.text_eq]
    simp
  refine .inr ⟨_, encoding, old, new, code, g, Except.ok.inj hr, hname,
    Disk.read_eq_ok_iff.mpr ⟨names, hleads, hget⟩, hnew, hdecode, hg, ?_, Encoding.markOf_eq_mark⟩
  exact Encoding.exchanges_of_encode hne (hcode ▸ hdecode) hencode

/-- A file with a mark, an accent and two kinds of line ends: all of it stays but the call. -/
theorem replaceAt_changes_only_the_call_signed :
    let e : Editor := ⟨['f'], Policy.apply (.leading {}), [".h".toList]⟩
    let path : Text := "a.c".toList
    let old : Bytes := Encoding.signature ++ Utf8.encode "é\r\nf(a);\n".toList
    let s : Session :=
      { disk := ⟨[([path], .file old)], []⟩,
        store := { encoding := "utf-8-sig".toList, mode := .inPlace true } }
    (e.replaceAt ⟨path, 1⟩ 0 s).1 = .ok (some ⟨⟨path, 1⟩, 1, "f(ERR_0, a)".toList, 0⟩)
      ∧ s.disk.read (s.store.resolve path) = .ok old
      ∧ ∃ head tail, old = head ++ (Utf8.encode "f(a)".toList ++ tail)
        ∧ (e.replaceAt ⟨path, 1⟩ 0 s).2.disk.read (s.store.resolve path)
          = .ok (head ++ (Utf8.encode "f(ERR_0, a)".toList ++ tail)) := by
  intro e path old s
  have hok : (e.replaceAt ⟨path, 1⟩ 0 s).1
      = .ok (some ⟨⟨path, 1⟩, 1, "f(ERR_0, a)".toList, 0⟩) := by
    dsimp only [e, s, path, old]
    cbv
  have hread : s.disk.read (s.store.resolve path) = .ok old := by
    dsimp only [s, path, old]
    cbv
  have hsigned : Encoding.ofName? s.store.encoding = some .utf8Signed := by
    dsimp only [s]
    cbv
  have htext : Encoding.utf8Signed.decode old = .ok "é\r\nf(a);\n".toList := by
    dsimp only [old]
    cbv
  have hregion : region? e.function "é\r\nf(a);\n".toList 1 = some ⟨3, 7, [['a']]⟩ := by
    dsimp only [e]
    cbv
  have hcall : (⟨3, 7, [['a']]⟩ : Region).text "é\r\nf(a);\n".toList = "f(a)".toList := by
    cbv
  have hmarked : Encoding.signature <+: old := List.prefix_append ..
  have hmode : s.store.mode = .inPlace true := rfl
  have hstep : e.replaceAt ⟨path, 1⟩ 0 s
      = (.ok (some ⟨⟨path, 1⟩, 1, "f(ERR_0, a)".toList, 0⟩), (e.replaceAt ⟨path, 1⟩ 0 s).2) := by
    rw [← hok]
  obtain ⟨hnone, -⟩ | ⟨record, encoding, old', new, code, g, hrecord, hname, hread', hnew, hdecode,
    hg, ⟨head, inside, written, tail, -, hinside, hwritten, -, hold, hnew'⟩, hmark⟩ :=
    replaceAt_changes_only_the_call hmode hstep
  · cases hnone
  obtain rfl := Option.some.inj hrecord
  obtain rfl := Option.some.inj (hsigned.symm.trans hname)
  obtain rfl := Except.ok.inj (hread.symm.trans hread')
  obtain rfl := Except.ok.inj (htext.symm.trans hdecode)
  obtain rfl := Option.some.inj (hregion.symm.trans hg)
  rw [hmark (.inr hmarked), ← List.append_assoc] at hold
  rw [← List.append_assoc] at hnew'
  rw [hcall] at hinside
  obtain rfl : Utf8.encode "f(a)".toList = inside := Except.ok.inj hinside
  obtain rfl : Utf8.encode "f(ERR_0, a)".toList = written := Except.ok.inj hwritten
  exact ⟨hok, hread, _, tail, hold, hnew.trans (congrArg Except.ok hnew')⟩

/-- **A mark is added to a file that had none**: the bytes before the call are not the same, in
whatever way the old ones are cut around it. -/
theorem replaceAt_adds_signature :
    let e : Editor := ⟨['f'], Policy.apply (.leading {}), [".h".toList]⟩
    let path : Text := "a.c".toList
    let code : Text := "x; f(a);\n".toList
    let s : Session :=
      { disk := ⟨[([path], .file (Utf8.encode code))], []⟩,
        store := { encoding := "utf-8-sig".toList } }
    let s' : Session := (e.replaceAt ⟨path, 1⟩ 0 s).2
    Encoding.ofName? s.store.encoding = some .utf8Signed
      ∧ (e.replaceAt ⟨path, 1⟩ 0 s).1 = .ok (some ⟨⟨path, 1⟩, 1, "f(ERR_0, a)".toList, 0⟩)
      ∧ Encoding.utf8Signed.decode (Utf8.encode code) = .ok code
      ∧ region? e.function code 1 = some ⟨3, 7, [['a']]⟩
      ∧ s'.disk.read (s.store.resolve path)
        = .ok (Encoding.signature ++ Utf8.encode "x; f(ERR_0, a);\n".toList)
      ∧ ¬ ∃ head written tail, Utf8.encode code = head ++ (Utf8.encode "f(a)".toList ++ tail)
          ∧ s'.disk.read (s.store.resolve path) = .ok (head ++ (written ++ tail)) := by
  intro e path code s s'
  have hread : s'.disk.read (s.store.resolve path)
      = .ok (Encoding.signature ++ Utf8.encode "x; f(ERR_0, a);\n".toList) := by
    dsimp only [s', e, s, path, code]
    cbv
  have hok : (e.replaceAt ⟨path, 1⟩ 0 s).1
      = .ok (some ⟨⟨path, 1⟩, 1, "f(ERR_0, a)".toList, 0⟩) := by
    dsimp only [e, s, path, code]
    cbv
  have hname : Encoding.ofName? s.store.encoding = some .utf8Signed := by
    dsimp only [s]
    cbv
  have hdecode : Encoding.utf8Signed.decode (Utf8.encode code) = .ok code := by
    dsimp only [code]
    cbv
  have hregion : region? e.function code 1 = some ⟨3, 7, [['a']]⟩ := by
    dsimp only [e, code]
    cbv
  have hbytes : Utf8.encode code = [120, 59, 32, 102, 40, 97, 41, 59, 10] := by
    dsimp only [code]
    cbv
  have hcall : Utf8.encode "f(a)".toList = [102, 40, 97, 41] := by
    cbv
  refine ⟨hname, hok, hdecode, hregion, hread, ?_⟩
  rintro ⟨head, written, tail, hold, hnew⟩
  rw [hbytes, hcall] at hold
  have hnew' := Except.ok.inj (hread.symm.trans hnew)
  cases head with
  | nil =>
    -- The file does not begin with the call.
    have hfirst : some (120 : UInt8) = some 102 := congrArg List.head? hold
    exact absurd hfirst (by decide)
  | cons b head =>
    have hold' : some (120 : UInt8) = some b := congrArg List.head? hold
    have hnew'' : some (0xEF : UInt8) = some b := congrArg List.head? hnew'
    exact absurd (hold'.trans hnew''.symm) (by decide)

end Editor

end CallEdits

import CallEdits.Proofs.WrittenFiles

/-!
# Proofs/WriteOutcomes — all that can come of a write

A file that is written in place is opened, which empties it, and only then is the new text turned
into bytes:

    backup, if due ──▸ open: the file is empty ──▸ encode ──▸ the file holds the new bytes

The backup is harmless: what was decoded can be encoded again (`Encoding.exists_encode_of_decode`),
so a backup is made in full or nothing happens (`secure_cases`).  Of a text that cannot be encoded
the failure blames the characters, and no other failure does so (`Failure.blamesText`).
-/

namespace CallEdits

/-- **Does the failure blame the characters of a text**, which have no bytes? -/
def Failure.blamesText : Failure → Bool
  | .encoding (.badChars ..) => true
  | _ => false

namespace Encoding

/-! ## From bytes to text and back -/

variable {encoding : Encoding} {limit : Nat} {bytes : Bytes} {t : Text} {fault : Fault}

/-- Bytes that a narrow encoding can read are all narrow. -/
theorem decodeNarrow_eq_ok (h : decodeNarrow encoding limit bytes = .ok t) :
    (∀ b ∈ bytes, b.toNat < limit) ∧ t = bytes.map fun b => Char.ofNat b.toNat := by
  simp only [decodeNarrow] at h
  split at h
  · rename_i hrest
    have hlen := List.drop_eq_nil_iff.mp hrest
    have hgood : bytes.takeWhile (fun b => b.toNat < limit) = bytes :=
      (List.takeWhile_prefix _).eq_of_length_le hlen
    rw [hgood] at h
    refine ⟨fun b hb => ?_, (Except.ok.inj h).symm⟩
    rw [← hgood] at hb
    simpa using List.all_eq_true.mp List.all_takeWhile b hb
  · cases h

theorem toNat_ofNat_of_byte (b : UInt8) : (Char.ofNat b.toNat).toNat = b.toNat := by
  have hnumber : (Utf8.number b.toNat []).toNat = b.toNat :=
    Utf8.toNat_number rfl (.inl (Nat.lt_trans b.toNat_lt (by decide)))
  exact hnumber

theorem encodeNarrow_map (h : ∀ b ∈ bytes, b.toNat < limit) :
    encodeNarrow encoding limit (bytes.map fun b => Char.ofNat b.toNat) = .ok bytes := by
  have hgood : (bytes.map fun b => Char.ofNat b.toNat).takeWhile (fun c => c.toNat < limit)
      = bytes.map fun b => Char.ofNat b.toNat := by
    refine List.takeWhile_eq_self_iff.mpr fun c hc => ?_
    obtain ⟨b, hb, rfl⟩ := List.mem_map.mp hc
    rw [toNat_ofNat_of_byte]
    exact decide_eq_true (h b hb)
  have hback : (bytes.map fun b => Char.ofNat b.toNat).map (fun c => c.toNat.toUInt8) = bytes := by
    rw [List.map_map]
    refine (List.map_congr_left fun b _ => ?_).trans (List.map_id bytes)
    rw [Function.comp_apply, toNat_ofNat_of_byte]
    exact UInt8.ofNat_toNat
  simp only [encodeNarrow, hgood, List.drop_length, hback]

/-- **A file that was decoded is encoded again** into the same bytes, unless a signature is
written. -/
theorem encode_of_decode :
    ∀ {encoding : Encoding}, encoding ≠ utf8Signed → encoding.decode bytes = .ok t →
      encoding.encode t = .ok bytes
  | utf8, _, h => by
      rw [decode, decodeUtf8] at h
      split at h
      · rename_i hdecode
        obtain rfl := Except.ok.inj h
        rw [encode, Utf8.encode_of_decode hdecode]
      · cases h
  | utf8Signed, hne, _ => absurd rfl hne
  | ascii, _, h => by
      obtain ⟨hnarrow, rfl⟩ := decodeNarrow_eq_ok h
      exact encodeNarrow_map hnarrow
  | latin1, _, h => by
      obtain ⟨hnarrow, rfl⟩ := decodeNarrow_eq_ok h
      exact encodeNarrow_map hnarrow

/-- **What was decoded can be encoded**, in every encoding. -/
theorem exists_encode_of_decode (h : encoding.decode bytes = .ok t) :
    ∃ content, encoding.encode t = .ok content := by
  by_cases hsigned : encoding = utf8Signed
  · subst hsigned
    exact ⟨_, rfl⟩
  · exact ⟨bytes, encode_of_decode hsigned h⟩

/-! ## Who is to blame -/

/-- **A file that cannot be decoded** has bytes that are to blame. -/
theorem exists_badBytes_of_decode (h : encoding.decode bytes = .error fault) :
    ∃ e position blamed reason, fault = .badBytes e position blamed reason := by
  have hutf8 : ∀ {bytes : Bytes}, decodeUtf8 bytes = .error fault →
      ∃ e position blamed reason, fault = .badBytes e position blamed reason := by
    intro bytes h
    rw [decodeUtf8] at h
    split at h
    · cases h
    · exact ⟨_, _, _, _, (Except.error.inj h).symm⟩
  have hnarrow : ∀ {limit : Nat}, decodeNarrow encoding limit bytes = .error fault →
      ∃ e position blamed reason, fault = .badBytes e position blamed reason := by
    intro limit h
    simp only [decodeNarrow] at h
    split at h
    · cases h
    · exact ⟨_, _, _, _, (Except.error.inj h).symm⟩
  cases encoding with
  | utf8 => exact hutf8 h
  | utf8Signed =>
    rw [decode] at h
    split at h
    · cases h
    · split at h <;> exact hutf8 h
  | ascii => exact hnarrow h
  | latin1 => exact hnarrow h

theorem blamesText_of_decode (h : encoding.decode bytes = .error fault) :
    (Failure.encoding fault).blamesText = false := by
  obtain ⟨_, _, _, _, rfl⟩ := exists_badBytes_of_decode h
  rfl

/-- **Only a narrow encoding refuses a text**, and it blames the characters. -/
theorem encode_eq_error (h : encoding.encode t = .error fault) :
    (Failure.encoding fault).blamesText = true ∧ (encoding = ascii ∨ encoding = latin1) := by
  have hnarrow : ∀ {limit : Nat}, encodeNarrow encoding limit t = .error fault →
      (Failure.encoding fault).blamesText = true := by
    intro limit h
    simp only [encodeNarrow] at h
    split at h
    · cases h
    · rw [← Except.error.inj h]
      rfl
  cases encoding with
  | utf8 => cases h
  | utf8Signed => cases h
  | ascii => exact ⟨hnarrow h, .inl rfl⟩
  | latin1 => exact ⟨hnarrow h, .inr rfl⟩

end Encoding

namespace Disk

/-! ## Text files -/

variable {d d' : Disk} {p : Path} {encoding t : Text} {names : List Text} {failure : Failure}

theorem blamesText_of_readText (h : d.readText p encoding = .error failure) :
    failure.blamesText = false := by
  rw [readText] at h
  split at h
  · exact Except.error.inj h ▸ rfl
  split at h
  · exact Except.error.inj h ▸ rfl
  split at h
  · exact Except.error.inj h ▸ rfl
  split at h
  · rename_i hdecode
    exact Except.error.inj h ▸ Encoding.blamesText_of_decode hdecode
  · cases h

/-- A text is written where its path leads: the file holds its bytes, or else nothing. -/
theorem writeText_of_leads (hnull : ¬ encoding.contains '\x00' = true) (hleads : d.Leads p names)
    {e : Encoding} (hname : Encoding.ofName? encoding = some e) (t : Text) :
    d.writeText p encoding t
      = match e.encode t with
        | .error fault => (.error (.encoding fault), d.put names (.file []))
        | .ok content => (.ok (), d.put names (.file content)) := by
  rw [writeText, if_neg hnull, openEmpty_eq_ok_iff.mpr ⟨hleads, rfl⟩]
  cases hencode : e.encode t with
  | error fault => simp only [hname, hencode]
  | ok content => simp only [hname, hencode, put_put]

/-- A path that leads to no file leaves the disk as it is. -/
theorem writeText_of_not_leads (h : ∀ names, ¬ d.Leads p names) (encoding t : Text) :
    ∃ failure, d.writeText p encoding t = (.error failure, d) ∧ failure.blamesText = false := by
  rw [writeText]
  split
  · exact ⟨_, rfl, rfl⟩
  cases hopen : d.openEmpty p with
  | error trouble => exact ⟨_, rfl, rfl⟩
  | ok opened => exact absurd (openEmpty_eq_ok_iff.mp hopen).1 (h opened.1)

/-- **All that writing a text can do to the disk**, failed or not: something is put where the path
leads. -/
theorem writeText_snd (d : Disk) (p : Path) (encoding t : Text) :
    (d.writeText p encoding t).2 = d
      ∨ ∃ names content, d.Leads p names
        ∧ (d.writeText p encoding t).2 = d.put names (.file content) := by
  by_cases hleads : ∃ names, d.Leads p names
  · obtain ⟨names, hleads⟩ := hleads
    rw [writeText]
    split
    · exact .inl rfl
    rw [openEmpty_eq_ok_iff.mpr ⟨hleads, rfl⟩]
    dsimp only
    refine .inr ?_
    cases Encoding.ofName? encoding with
    | none => exact ⟨names, [], hleads, rfl⟩
    | some e =>
      dsimp only
      cases e.encode t with
      | error fault => exact ⟨names, [], hleads, rfl⟩
      | ok content => exact ⟨names, content, hleads, put_put ..⟩
  · obtain ⟨failure, hwrite, -⟩ := writeText_of_not_leads (not_exists.mp hleads) encoding t
    exact .inl (by rw [hwrite])

end Disk

namespace Session

/-! ## Sessions that write in place -/

/-- **A session before its first step** that works in place. -/
def inPlace (backup : Bool) (disk : Disk) (root : Path) (encoding : Text) : Session :=
  { disk, store := { root, encoding, mode := .inPlace backup } }

variable {s s' : Session} {path code : Text} {backup : Bool}

/-- **Make the backup of a file, if it is due.** -/
def secure (s : Session) (path : Text) : Except Failure Unit × Session :=
  if s.store.mode = .inPlace true ∧ s.store.backedUp.contains path = false then s.backUp path
  else (.ok (), s)

theorem write_inPlace (hmode : s.store.mode = .inPlace backup) (path code : Text) :
    s.write path code = match s.secure path with
      | (.error failure, t) => (.error failure, t)
      | (.ok (), t) => t.writeFile path code := by
  have hiff : (backup && !s.store.backedUp.contains path) = true
      ↔ Store.Mode.inPlace backup = .inPlace true ∧ s.store.backedUp.contains path = false := by
    simp
  rw [write, secure, hmode]
  by_cases hdue : Store.Mode.inPlace backup = .inPlace true ∧ s.store.backedUp.contains path = false
  · rw [if_pos hdue]
    exact if_pos (hiff.mpr hdue)
  · rw [if_neg hdue]
    exact if_neg (mt hiff.mp hdue)

/-- **All that can come of a backup**, for a file that can be loaded: it cannot be made, and nothing
happens; or it is not due; or it holds what was loaded. -/
theorem secure_cases {old : Text} {e : Encoding}
    (hread : s.disk.readText (s.store.resolve path) s.store.encoding = .ok old)
    (hname : Encoding.ofName? s.store.encoding = some e) :
    (∃ failure, s.secure path = (.error failure, s) ∧ failure.blamesText = false)
      ∨ (s.store.mode = .inPlace true → path ∈ s.store.backedUp) ∧ s.secure path = (.ok (), s)
      ∨ s.store.mode = .inPlace true ∧ path ∉ s.store.backedUp
        ∧ ∃ copy names content log, (s.store.resolve path).extend? ".bak".toList = some copy
          ∧ s.disk.Leads copy names ∧ e.encode old = .ok content
          ∧ s.secure path = (.ok (), { s with
              disk := s.disk.put names (.file content),
              store.backedUp := path :: s.store.backedUp, log }) := by
  have hnew : s.store.backedUp.contains path = false ↔ path ∉ s.store.backedUp := by simp
  rw [secure]
  split
  · rename_i hdue
    rw [hnew] at hdue
    obtain ⟨hnull, -, bytes, e', -, -, hname', hdecode⟩ := Disk.readText_eq_ok_iff.mp hread
    obtain rfl := Option.some.inj (hname.symm.trans hname')
    simp only [backUp, hread]
    cases hcopy : (s.store.resolve path).extend? ".bak".toList with
    | none => exact .inl ⟨_, rfl, rfl⟩
    | some copy =>
      dsimp only
      by_cases hleads : ∃ names, s.disk.Leads copy names
      · obtain ⟨names, hleads⟩ := hleads
        obtain ⟨content, hencode⟩ := Encoding.exists_encode_of_decode hdecode
        refine .inr (.inr ⟨hdue.1, hdue.2, copy, names, content, .backup copy :: s.log, rfl,
          hleads, hencode, ?_⟩)
        simp only [Disk.writeText_of_leads hnull hleads hname, hencode]
        rfl
      · obtain ⟨failure, hwrite, hblames⟩ :=
          Disk.writeText_of_not_leads (not_exists.mp hleads) s.store.encoding old
        rw [hwrite]
        exact .inl ⟨failure, rfl, hblames⟩
  · rename_i hdue
    exact .inr (.inl ⟨fun hmode => not_not.mp fun hmem => hdue ⟨hmode, hnew.mpr hmem⟩, rfl⟩)

/-- **All that can come of writing a file** that is there. -/
theorem writeFile_of_leads {names : List Text} {e : Encoding}
    (hnull : ¬ s.store.encoding.contains '\x00' = true)
    (hleads : s.disk.Leads (s.store.resolve path) names)
    (hname : Encoding.ofName? s.store.encoding = some e) (code : Text) :
    ∃ log, s.writeFile path code
      = match e.encode code with
        | .error fault =>
          (.error (.encoding fault), { s with disk := s.disk.put names (.file []), log })
        | .ok content =>
          (.ok (), { s with disk := s.disk.put names (.file content),
                            store.written := path :: s.store.written, log }) := by
  refine ⟨(s.note (.write (s.store.resolve path))).log, ?_⟩
  simp only [writeFile, note, Disk.writeText_of_leads hnull hleads hname]
  cases e.encode code <;> rfl

end Session

end CallEdits

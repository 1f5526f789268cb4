import CallEdits.Policy
import CallEdits.Proofs.ArgumentGrammar
import Mathlib

/-!
# Proofs/RejoinedArguments — arguments that are joined and split again

    ( piece , piece ) ──split, trim──▸ arguments ──join──▸ ( argument, argument ) ──split──▸ ?

A blank means nothing to the scan, so taking blanks away from a piece leaves a piece — but for one
case.  A backslash takes the next character with it, and where that is the last blank of a piece,
the trimmed argument is left with a backslash that takes nothing: it is *unfinished*, and takes the
comma or the parenthesis that is put after it.

* `piece_or_unfinished_trim` — these are the only two things that become of a piece;
* `split_commaJoin` — arguments that are pieces are found again, with the rest behind them;
* `split_commaJoin_iff` — arguments of a call are found again if and only if none of them is
  unfinished.
-/

namespace CallEdits.Call

open Policy (commaJoin)

variable {t u a first rest : Text} {c : Char}

/-! ## Pieces without their blanks -/

/-- A blank means nothing to the scan. -/
theorem isPlain_of_isBlank (h : Text.isBlank c = true) : IsPlain c := by
  refine ⟨?_, ?_, ?_, ?_, ?_⟩ <;>
  · rintro rfl
    exact absurd h (by decide)

theorem Item.piece (h : Item t) : Piece t := by
  have hpiece : Piece (t ++ []) := .item h .nil
  rwa [List.append_nil] at hpiece

theorem piece_of_isPlain : ∀ {t : Text}, (∀ c ∈ t, IsPlain c) → Piece t
  | [], _ => .nil
  | _ :: _, h => .item (.plain (h _ List.mem_cons_self))
      (piece_of_isPlain fun d hd => h d (List.mem_cons_of_mem _ hd))

/-- An item that begins with a plain character is that character. -/
theorem Item.eq_singleton (h : Item (c :: t)) (hc : IsPlain c) : t = [] := by
  obtain ⟨hslash, hquote, hopen, -, -⟩ := hc
  cases h with
  | escaped => exact absurd rfl hslash
  | string => exact absurd rfl hquote
  | group => exact absurd rfl hopen
  | plain => rfl

/-- No item is empty. -/
theorem Item.ne_nil (h : Item t) : t ≠ [] := by
  rintro rfl
  cases h

/-- A piece that begins with a plain character goes on with a piece. -/
theorem Piece.of_cons (h : Piece (c :: t)) (hc : IsPlain c) : Piece t := by
  generalize hs : c :: t = s at h
  cases h with
  | nil => exact nomatch hs
  | @item i u hi hu =>
    obtain ⟨d, i, rfl⟩ := List.exists_cons_of_ne_nil hi.ne_nil
    obtain ⟨rfl, rfl⟩ := List.cons.inj hs
    rwa [hi.eq_singleton hc]

theorem Piece.trimLeft : ∀ {t : Text}, Piece t → Piece t.trimLeft
  | [], h => h
  | c :: t, h => by
      rw [Text.trimLeft]
      by_cases hc : Text.isBlank c = true
      · rw [List.dropWhile_cons_of_pos hc]
        exact Piece.trimLeft (h.of_cons (isPlain_of_isBlank hc))
      · rwa [List.dropWhile_cons_of_neg hc]

/-- **An unfinished argument**: after a piece, a backslash that takes nothing. -/
def Unfinished (a : Text) : Prop := ∃ q, Piece q ∧ a = q ++ ['\\']

/-- Only an escaped blank takes something of an item away. -/
theorem Item.piece_or_unfinished (h : Item t) : Piece t.trimRight ∨ Unfinished t.trimRight := by
  cases h with
  | escaped c =>
    rw [show ['\\', c] = ['\\'] ++ [c] from rfl]
    cases hc : Text.isBlank c with
    | true =>
      rw [Text.trimRight_concat_blank hc]
      exact .inr ⟨[], .nil, Text.trimRight_concat (by decide) []⟩
    | false =>
      rw [Text.trimRight_concat hc]
      exact .inl (Item.escaped c).piece
  | string hb =>
    rw [← List.cons_append, Text.trimRight_concat (by decide)]
    exact .inl (Item.string hb).piece
  | group hg =>
    rw [← List.cons_append, Text.trimRight_concat (by decide)]
    exact .inl (Item.group hg).piece
  | @plain c hp =>
    cases hc : Text.isBlank c with
    | true =>
      rw [← List.nil_append [c], Text.trimRight_concat_blank hc]
      exact .inl .nil
    | false =>
      rw [← List.nil_append [c], Text.trimRight_concat hc]
      exact .inl (Item.plain hp).piece

theorem Piece.trimRight (h : Piece t) : Piece t.trimRight ∨ Unfinished t.trimRight := by
  induction h with
  | nil => exact .inl .nil
  | @item i u hi _ ih =>
    rw [Text.trimRight_append]
    split
    · exact hi.piece_or_unfinished
    · obtain hpiece | ⟨q, hq, heq⟩ := ih
      · exact .inl (.item hi hpiece)
      · exact .inr ⟨i ++ q, .item hi hq, by rw [heq, List.append_assoc]⟩

/-- **What becomes of a piece that is trimmed.** -/
theorem piece_or_unfinished_trim (h : Piece t) : Piece t.trim ∨ Unfinished t.trim :=
  h.trimLeft.trimRight

/-- An unfinished argument is no piece: it takes the parenthesis after it. -/
theorem Unfinished.not_piece (h : Unfinished a) : ¬ Piece a := by
  obtain ⟨q, hq, rfl⟩ := h
  intro hpiece
  have hclosed : scan ⟨1, false, false, [], [], 0⟩ (q ++ ['\\'] ++ [')']) = _ :=
    scan_piece hpiece [] 0
  rw [scan_closed, List.append_assoc, scan_piece hq, List.singleton_append, scan_escape] at hclosed
  exact nomatch hclosed

/-- **The arguments of a call** are trimmed, and pieces or unfinished. -/
theorem arguments_of_split {code : Text} {call : Arguments} (h : split code = .ok call) :
    ∀ a ∈ call.arguments, a.trim = a ∧ (Piece a ∨ Unfinished a) := by
  obtain ⟨blanks, pieces, hcut⟩ := exists_cut_of_split h
  obtain ⟨lines, hsplit, -⟩ := hcut.split_eq
  have harguments : call.arguments = argumentsOf pieces :=
    congrArg Arguments.arguments (Except.ok.inj (h.symm.trans hsplit))
  intro a ha
  rw [harguments] at ha
  obtain ⟨t, ht, rfl⟩ := List.mem_map.mp (mem_map_of_mem_argumentsOf ha)
  exact ⟨Text.trim_trim t, piece_or_unfinished_trim (hcut.piece t ht)⟩

/-! ## Joining and splitting again -/

/-- Joined arguments are pieces with commas between them, all but the first behind a space. -/
theorem commaJoin_cons : ∀ (first : Text) (more : List Text),
    commaJoin (first :: more) = Text.join [','] (first :: more.map (' ' :: ·))
  | first, [] => by rw [commaJoin, List.map_nil, Text.join_singleton, Text.join_singleton]
  | first, a :: more => by
      have hspace : Text.join [','] ((' ' :: a) :: more.map (' ' :: ·)) = [' '] ++ _ :=
        Text.join_append_cons [','] [' '] a _
      rw [commaJoin, Text.join_cons_cons, ← commaJoin, commaJoin_cons a more, List.map_cons,
        Text.join_cons_cons, hspace]
      rfl

/-- The space in front of an argument is trimmed away. -/
theorem map_trim_space {first : Text} {more : List Text} (h : ∀ a ∈ first :: more, a.trim = a) :
    (first :: more.map (' ' :: ·)).map Text.trim = first :: more := by
  rw [List.map_cons, h first List.mem_cons_self, List.map_map]
  refine congrArg (first :: ·) ((List.map_congr_left fun a ha => ?_).trans (List.map_id more))
  rw [Function.comp_apply, Text.trim_blank_cons (by decide), h a (List.mem_cons_of_mem _ ha)]
  rfl

/-- **The pieces that joined arguments are cut into**: all but the first stand behind a space, and
where nothing is joined there is one empty piece. -/
def spaced : List Text → List Text
  | [] => [[]]
  | first :: more => first :: more.map (' ' :: ·)

theorem commaJoin_eq_join_spaced : ∀ arguments : List Text,
    commaJoin arguments = Text.join [','] (spaced arguments)
  | [] => rfl
  | first :: more => commaJoin_cons first more

/-- The breaks of joined arguments are those of the arguments. -/
theorem breaks_commaJoin : ∀ arguments : List Text,
    (commaJoin arguments).breaks = (arguments.map Text.breaks).sum
  | [] => rfl
  | [a] => by rw [commaJoin, Text.join_singleton, List.map_singleton, List.sum_singleton]
  | a :: b :: more => by
      have hmark : Text.breaks [',', ' '] = 0 := rfl
      rw [commaJoin, Text.join_cons_cons, Text.breaks_append, Text.breaks_append, ← commaJoin,
        breaks_commaJoin (b :: more), hmark, Nat.zero_add]
      exact List.sum_cons.symm

theorem piece_of_mem_spaced {arguments : List Text} (h : ∀ a ∈ arguments, Piece a) :
    ∀ t ∈ spaced arguments, Piece t := by
  match arguments with
  | [] => exact List.forall_mem_singleton.mpr .nil
  | first :: more =>
    refine List.forall_mem_cons.mpr ⟨h first List.mem_cons_self, fun t ht => ?_⟩
    obtain ⟨a, ha, rfl⟩ := List.mem_map.mp ht
    exact .item (.plain (isPlain_of_isBlank (by decide))) (h a (List.mem_cons_of_mem _ ha))

/-- Trimmed arguments are found in their pieces, unless all there is of them is an empty one. -/
theorem argumentsOf_spaced {arguments : List Text} (htrim : ∀ a ∈ arguments, a.trim = a)
    (hne : arguments ≠ [[]]) : argumentsOf (spaced arguments) = arguments := by
  match arguments with
  | [] => rfl
  | first :: more =>
    rw [spaced, argumentsOf_eq, if_neg, map_trim_space htrim]
    rintro ⟨hone, hblank⟩
    obtain rfl : more = [] := by simpa using hone
    have hempty : first.trim = [] := Text.trim_eq_nil.mpr (hblank first List.mem_cons_self)
    exact hne (congrArg (· :: []) ((htrim first List.mem_cons_self).symm.trans hempty))

/-- **Arguments that are pieces are found again**, however many there are. -/
theorem split_commaJoin {arguments : List Text} (hne : arguments ≠ [[]])
    (htrim : ∀ a ∈ arguments, a.trim = a) (hpiece : ∀ a ∈ arguments, Piece a) {blanks : Text}
    (hblanks : ∀ c ∈ blanks, Text.isBlank c = true) (r : Text) :
    split (blanks ++ '(' :: (commaJoin arguments ++ ')' :: r))
      = .ok ⟨arguments, r, blanks.breaks + (arguments.map Text.breaks).sum⟩ := by
  have hsome : spaced arguments ≠ [] := by
    cases arguments <;> exact List.cons_ne_nil _ _
  have hcut : Cut (blanks ++ '(' :: (commaJoin arguments ++ ')' :: r)) blanks
      (spaced arguments) r :=
    ⟨hblanks, hsome, piece_of_mem_spaced hpiece, by rw [commaJoin_eq_join_spaced]⟩
  obtain ⟨lines, hsplit, hlines⟩ := hcut.split_eq
  rw [Text.breaks_append, Text.breaks_cons_of_ne (by decide), Text.breaks_append,
    Text.breaks_cons_of_ne (by decide), breaks_commaJoin, ← Nat.add_assoc] at hlines
  rw [hsplit, argumentsOf_spaced htrim hne, Nat.add_right_cancel hlines]

/-- **A text with no blanks at its end**, unless it is all blank. -/
def Tight (t : Text) : Prop := ∃ b, (∀ c ∈ b, Text.isBlank c = true) ∧ t = b ++ t.trim

/-- A text behind which another character stands is determined by what it is trimmed to, if it has
no blanks at its end. -/
theorem Tight.eq_of_trim {p x y : Text} {d d' : Char} (ht : Tight t) (htrim : p.trim = t.trim)
    (hd : Text.isBlank d = false) (hd' : Text.isBlank d' = false)
    (h : p ++ d :: x = t ++ d' :: y) : p = t ∧ d :: x = d' :: y := by
  obtain ⟨b, hb, ht⟩ := ht
  obtain ⟨u, v, hu, hv, hp⟩ := Text.exists_blanks_trim p
  rw [htrim] at hp
  cases hs : t.trim with
  | nil =>
    have hpblank := Text.trim_eq_nil.mp (htrim.trans hs)
    exact Text.blanks_inj hpblank (Text.trim_eq_nil.mp hs) hd hd' h
  | cons c s =>
    have hc : Text.isBlank c = false := Text.head?_trim (congrArg List.head? hs)
    rw [hs] at hp ht
    rw [hp, ht, List.append_assoc, List.append_assoc, List.append_assoc] at h
    obtain ⟨rfl, hrest⟩ := Text.blanks_inj hu hb hc hc h
    have htail : v ++ d :: x = [] ++ d' :: y :=
      List.append_cancel_left (List.cons.inj hrest).2
    obtain ⟨rfl, hend⟩ := Text.blanks_inj hv (List.forall_mem_nil _) hd hd' htail
    rw [hp, ht, List.append_nil]
    exact ⟨rfl, hend⟩

/-- **Tight pieces are determined by what they are trimmed to**, in a text that is closed. -/
theorem eq_of_join_eq {x y : Text} : ∀ {ps ts : List Text}, ts ≠ [] → (∀ t ∈ ts, Tight t) →
    ps.map Text.trim = ts.map Text.trim →
    Text.join [','] ps ++ ')' :: x = Text.join [','] ts ++ ')' :: y → ps = ts ∧ x = y
  | _, [], h, _, _, _ => absurd rfl h
  | [p], [t], _, ht, hmap, h => by
      rw [Text.join_singleton, Text.join_singleton] at h
      obtain ⟨rfl, hend⟩ := (ht t List.mem_cons_self).eq_of_trim (List.cons.inj hmap).1
        (by decide) (by decide) h
      exact ⟨rfl, (List.cons.inj hend).2⟩
  | p :: p' :: ps, [t], _, _, hmap, _ => nomatch (List.cons.inj hmap).2
  | [p], t :: t' :: ts, _, _, hmap, _ => nomatch (List.cons.inj hmap).2
  | p :: p' :: ps, t :: t' :: ts, _, ht, hmap, h => by
      obtain ⟨hhead, htail⟩ := List.cons.inj hmap
      rw [Text.join_cons_cons, Text.join_cons_cons, List.append_assoc, List.append_assoc,
        List.append_assoc, List.append_assoc] at h
      obtain ⟨rfl, hrest⟩ := (ht t List.mem_cons_self).eq_of_trim hhead
        (by decide) (by decide) h
      obtain ⟨hsame, hend⟩ := eq_of_join_eq (List.cons_ne_nil t' ts)
        (fun u hu => ht u (List.mem_cons_of_mem _ hu)) htail (List.cons.inj hrest).2
      exact ⟨by rw [hsame], hend⟩

/-- An argument behind a space is tight, and so is one behind nothing. -/
theorem tight_of_trim (h : a.trim = a) : Tight a ∧ Tight (' ' :: a) := by
  refine ⟨⟨[], List.forall_mem_nil _, h.symm⟩, [' '],
    List.forall_mem_singleton.mpr (by decide), ?_⟩
  rw [Text.trim_blank_cons (by decide), h]
  rfl

/-- **Arguments that are found again were pieces.** -/
theorem pieces_of_split_commaJoin {first r : Text} {more : List Text} {call : Arguments}
    (htrim : ∀ a ∈ first :: more, a.trim = a)
    (h : split ('(' :: (commaJoin (first :: more) ++ ')' :: r)) = .ok call)
    (harguments : call.arguments = first :: more) :
    (∀ a ∈ more, Piece a) ∧ call.remainder = r := by
  obtain ⟨blanks, pieces, hcut⟩ := exists_cut_of_split h
  obtain ⟨lines, hsplit, -⟩ := hcut.split_eq
  have hpieces : argumentsOf pieces = first :: more :=
    (congrArg Arguments.arguments (Except.ok.inj (h.symm.trans hsplit))).symm.trans harguments
  have hmap : pieces.map Text.trim = (first :: more.map (' ' :: ·)).map Text.trim := by
    rw [map_trim_space htrim, ← hpieces, argumentsOf_eq, if_neg]
    intro hone
    rw [argumentsOf_eq, if_pos hone] at hpieces
    exact nomatch hpieces
  have htight : ∀ t ∈ first :: more.map (' ' :: ·), Tight t :=
    List.forall_mem_cons.mpr ⟨(tight_of_trim (htrim first List.mem_cons_self)).1, fun t ht => by
      obtain ⟨a, ha, rfl⟩ := List.mem_map.mp ht
      exact (tight_of_trim (htrim a (List.mem_cons_of_mem _ ha))).2⟩
  obtain ⟨-, hcode⟩ := Text.blanks_inj (List.forall_mem_nil _) hcut.blank
    (by decide) (by decide) hcut.code_eq
  rw [commaJoin_cons] at hcode
  obtain ⟨rfl, hrest⟩ := eq_of_join_eq (by simp) htight hmap
    (List.cons.inj hcode).2.symm
  refine ⟨fun a ha => ?_, hrest⟩
  have hspace : Piece (' ' :: a) :=
    hcut.piece _ (List.mem_cons_of_mem _ (List.mem_map_of_mem ha))
  exact hspace.of_cons (isPlain_of_isBlank (by decide))

/-- **When arguments are found again.**  Trimmed arguments behind a first one that is a piece are
split again as they were joined if and only if none of them is unfinished. -/
theorem split_commaJoin_iff {first r : Text} {more : List Text} (hne : first ≠ [])
    (hfirst : first.trim = first) (hpiece : Piece first)
    (hmore : ∀ a ∈ more, a.trim = a ∧ (Piece a ∨ Unfinished a)) {P : Text → Prop} (hP : P r) :
    (∃ call, split ('(' :: (commaJoin (first :: more) ++ ')' :: r)) = .ok call
        ∧ call.arguments = first :: more ∧ P call.remainder)
      ↔ ∀ a ∈ more, ¬ Unfinished a := by
  have htrim : ∀ a ∈ first :: more, a.trim = a :=
    List.forall_mem_cons.mpr ⟨hfirst, fun a ha => (hmore a ha).1⟩
  constructor
  · rintro ⟨call, hsplit, harguments, -⟩ a ha hopen
    exact hopen.not_piece ((pieces_of_split_commaJoin htrim hsplit harguments).1 a ha)
  · intro hnone
    have hpieces : ∀ a ∈ first :: more, Piece a :=
      List.forall_mem_cons.mpr ⟨hpiece, fun a ha => (hmore a ha).2.resolve_right (hnone a ha)⟩
    have hsome : first :: more ≠ [[]] := fun h => hne (List.cons.inj h).1
    exact ⟨_, split_commaJoin hsome htrim hpieces (List.forall_mem_nil _) r, rfl, hP⟩

end CallEdits.Call

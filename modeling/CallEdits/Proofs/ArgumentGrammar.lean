import CallEdits.Call.Arguments
import Mathlib

/-!
# Proofs/ArgumentGrammar — the scan of a call reads a grammar

    item  ::=  '\' any  |  '"' string '"'  |  '(' group ')'  |  a plain character
    group ::=  (item | ',')*
    piece ::=  item*
    call  ::=  blanks '(' piece ',' … ',' piece ')'

The scan is flat: one state `⟨depth, quoted, escaped⟩` and one character at a time.  Two theorems
tie it to the grammar, which nests without bound:

* **what is written is read** (`scan_item`, `scan_group`, `scan_pieces`) — over an item the scan
  comes back to the state it started from, with the text of the item added to the piece;
* **what is read was written** (`group_of_scan`, `pieces_of_scan`) — a scan that succeeds at depth
  `d` splits its text at the parenthesis that closes that depth.

Both say what remains to be scanned, so neither needs an invariant on unfinished texts.
-/

namespace CallEdits.Call

/-! ## The grammar -/

/-- A character that means nothing to the scan. -/
def IsPlain (c : Char) : Prop := c ≠ '\\' ∧ c ≠ '"' ∧ c ≠ '(' ∧ c ≠ ')' ∧ c ≠ ','

/-- **The inside of a string**: a backslash takes the next character with it. -/
inductive StringBody : Text → Prop
  | nil : StringBody []
  | escaped (c : Char) {t : Text} : StringBody t → StringBody ('\\' :: c :: t)
  | plain {c : Char} {t : Text} : c ≠ '\\' → c ≠ '"' → StringBody t → StringBody (c :: t)

mutual

/-- **An item** of an argument. -/
inductive Item : Text → Prop
  | escaped (c : Char) : Item ['\\', c]
  | string {t : Text} : StringBody t → Item ('"' :: (t ++ ['"']))
  | group {t : Text} : Group t → Item ('(' :: (t ++ [')']))
  | plain {c : Char} : IsPlain c → Item [c]

/-- **The inside of parentheses**: items and commas. -/
inductive Group : Text → Prop
  | nil : Group []
  | item {t u : Text} : Item t → Group u → Group (t ++ u)
  | comma {u : Text} : Group u → Group (',' :: u)

end

/-- **A piece**: items, with no comma among them. -/
inductive Piece : Text → Prop
  | nil : Piece []
  | item {t u : Text} : Item t → Piece u → Piece (t ++ u)

/-- **A text cut as a call**: blanks, an opening parenthesis, pieces with commas between them, the
parenthesis that closes the call, and the rest. -/
structure Cut (code blanks : Text) (pieces : List Text) (rest : Text) : Prop where
  blank : ∀ c ∈ blanks, Text.isBlank c = true
  some_piece : pieces ≠ []
  piece : ∀ t ∈ pieces, Piece t
  code_eq : code = blanks ++ '(' :: (Text.join [','] pieces ++ ')' :: rest)

/-! ## One character

The scan at `⟨depth, quoted, escaped, piece, pieces, lines⟩`, for every kind of character. -/

variable {d n : Nat} {q : Bool} {p r t u : Text} {ps : List Text} {c : Char}

/-- Counting a character adds its breaks. -/
theorem Scan.count_eq (s : Scan) (c : Char) :
    s.count c = { s with lines := s.lines + Text.breaks [c] } := by
  by_cases h : c = '\n'
  · subst h
    rfl
  · simp [Scan.count, Text.breaks, h]

/-- A backslash and the character after it are kept, in a string or outside. -/
theorem scan_escape (c : Char) :
    scan ⟨d, q, false, p, ps, n⟩ ('\\' :: c :: r)
      = scan ⟨d, q, false, c :: '\\' :: p, ps, n + Text.breaks [c]⟩ r := by
  simp [scan, Scan.closes, Scan.step, Scan.plain, Scan.keep, Scan.count_eq, Text.breaks]

/-- A quote begins or ends a string. -/
theorem scan_quote :
    scan ⟨d, q, false, p, ps, n⟩ ('"' :: r) = scan ⟨d, !q, false, '"' :: p, ps, n⟩ r := by
  simp [scan, Scan.closes, Scan.step, Scan.plain, Scan.keep, Scan.count_eq, Text.breaks]

theorem scan_in_string (h : c ≠ '\\') (h' : c ≠ '"') :
    scan ⟨d, true, false, p, ps, n⟩ (c :: r)
      = scan ⟨d, true, false, c :: p, ps, n + Text.breaks [c]⟩ r := by
  simp [scan, Scan.closes, Scan.step, Scan.plain, Scan.keep, Scan.count_eq, h, h']

theorem scan_plain (h : IsPlain c) :
    scan ⟨d, false, false, p, ps, n⟩ (c :: r)
      = scan ⟨d, false, false, c :: p, ps, n + Text.breaks [c]⟩ r := by
  obtain ⟨h₁, h₂, h₃, h₄, h₅⟩ := h
  simp [scan, Scan.closes, Scan.step, Scan.plain, Scan.keep, Scan.count_eq, h₁, h₂, h₃, h₄, h₅]

theorem scan_open :
    scan ⟨d, false, false, p, ps, n⟩ ('(' :: r)
      = scan ⟨d + 1, false, false, '(' :: p, ps, n⟩ r := by
  simp [scan, Scan.closes, Scan.step, Scan.plain, Scan.keep, Scan.count_eq, Text.breaks]

/-- A closing parenthesis inside others is kept. -/
theorem scan_close :
    scan ⟨d + 2, false, false, p, ps, n⟩ (')' :: r)
      = scan ⟨d + 1, false, false, ')' :: p, ps, n⟩ r := by
  simp [scan, Scan.closes, Scan.step, Scan.plain, Scan.keep, Scan.count_eq, Text.breaks]

/-- The last closing parenthesis ends the scan. -/
theorem scan_closed :
    scan ⟨1, false, false, p, ps, n⟩ (')' :: r) = .ok (⟨1, false, false, p, ps, n⟩, r) := by
  simp [scan, Scan.closes]

/-- A comma inside parentheses is kept. -/
theorem scan_comma :
    scan ⟨d + 2, false, false, p, ps, n⟩ (',' :: r)
      = scan ⟨d + 2, false, false, ',' :: p, ps, n⟩ r := by
  simp [scan, Scan.closes, Scan.step, Scan.plain, Scan.keep, Scan.count_eq, Text.breaks]

/-- A comma of the call itself divides two pieces. -/
theorem scan_divide :
    scan ⟨1, false, false, p, ps, n⟩ (',' :: r)
      = scan ⟨1, false, false, [], p.reverse :: ps, n⟩ r := by
  simp [scan, Scan.closes, Scan.step, Scan.plain, Scan.finish, Scan.count_eq, Text.breaks]

/-! ## What is written is read

An item leaves depth, quotes and escapes as they were, so a scan that starts outside a string is
outside one again after it, whatever the item nests. -/

/-- The inside of a string is kept, and its closing quote ends the string. -/
theorem scan_stringBody (h : StringBody t) : ∀ (p : Text) (n : Nat),
    scan ⟨d, true, false, p, ps, n⟩ (t ++ '"' :: r)
      = scan ⟨d, false, false, '"' :: (t.reverse ++ p), ps, n + t.breaks⟩ r := by
  induction h with
  | nil =>
    intro p n
    rw [List.nil_append, scan_quote]
    rfl
  | @escaped c t _ ih =>
    intro p n
    have hb : Text.breaks ('\\' :: c :: t) = Text.breaks [c] + t.breaks :=
      (Text.breaks_cons_of_ne (by decide) _).trans (Text.breaks_cons c t)
    rw [List.cons_append, List.cons_append, scan_escape, ih, hb, Nat.add_assoc]
    simp only [List.reverse_cons, List.append_assoc, List.cons_append, List.nil_append]
  | @plain c t h h' _ ih =>
    intro p n
    rw [List.cons_append, scan_in_string h h', ih, Text.breaks_cons c t, Nat.add_assoc]
    simp only [List.reverse_cons, List.append_assoc, List.cons_append, List.nil_append]

mutual

/-- **An item is kept as it is.** -/
theorem scan_item {t : Text} : Item t → ∀ (d : Nat) (p r : Text) (n : Nat),
    scan ⟨d + 1, false, false, p, ps, n⟩ (t ++ r)
      = scan ⟨d + 1, false, false, t.reverse ++ p, ps, n + t.breaks⟩ r
  | .escaped c, d, p, r, n => by
      have hb : Text.breaks ['\\', c] = Text.breaks [c] := Text.breaks_cons_of_ne (by decide) _
      rw [List.cons_append, List.cons_append, List.nil_append, scan_escape, hb]
      rfl
  | .string (t := t) h, d, p, r, n => by
      have hb : Text.breaks ('"' :: (t ++ ['"'])) = t.breaks := by
        rw [Text.breaks_cons_of_ne (by decide), Text.breaks_append]
        rfl
      rw [List.cons_append, List.append_assoc, scan_quote, List.singleton_append]
      rw [Bool.not_false, scan_stringBody h, hb]
      simp
  | .group (t := t) h, d, p, r, n => by
      have hb : Text.breaks ('(' :: (t ++ [')'])) = t.breaks := by
        rw [Text.breaks_cons_of_ne (by decide), Text.breaks_append]
        rfl
      rw [List.cons_append, List.append_assoc, scan_open, List.singleton_append]
      rw [scan_group h, scan_close, hb]
      simp
  | .plain h, d, p, r, n => scan_plain h

/-- **The inside of parentheses is kept as it is**, commas included. -/
theorem scan_group {t : Text} : Group t → ∀ (d : Nat) (p r : Text) (n : Nat),
    scan ⟨d + 2, false, false, p, ps, n⟩ (t ++ r)
      = scan ⟨d + 2, false, false, t.reverse ++ p, ps, n + t.breaks⟩ r
  | .nil, _, _, _, _ => rfl
  | .item (t := t) (u := u) h h', d, p, r, n => by
      rw [List.append_assoc, scan_item h, scan_group h', Text.breaks_append, Nat.add_assoc]
      simp
  | .comma (u := u) h, d, p, r, n => by
      rw [List.cons_append, scan_comma, scan_group h, Text.breaks_cons_of_ne (by decide)]
      simp

end

/-- A piece is kept as it is. -/
theorem scan_piece (h : Piece t) : ∀ (p : Text) (n : Nat),
    scan ⟨1, false, false, p, ps, n⟩ (t ++ r)
      = scan ⟨1, false, false, t.reverse ++ p, ps, n + t.breaks⟩ r := by
  induction h with
  | nil => exact fun _ _ => rfl
  | item h _ ih =>
    intro p n
    rw [List.append_assoc, scan_item h, ih, Text.breaks_append, Nat.add_assoc]
    simp

/-- **The pieces of a call are found again**, in their order. -/
theorem scan_pieces : ∀ (pieces : List Text), pieces ≠ [] → (∀ t ∈ pieces, Piece t) →
    ∀ (ps : List Text) (n : Nat), ∃ s : Scan,
      scan ⟨1, false, false, [], ps, n⟩ (Text.join [','] pieces ++ ')' :: r) = .ok (s, r)
        ∧ s.done = ps.reverse ++ pieces ∧ s.lines = n + (Text.join [','] pieces).breaks
  | [], h, _, _, _ => absurd rfl h
  | [t], _, hp, ps, n => by
      have hs : scan ⟨1, false, false, [], ps, n⟩ (t ++ ')' :: r) = _ :=
        scan_piece (hp t (by simp)) [] n
      refine ⟨_, by rw [Text.join_singleton, hs, scan_closed], ?_, by rw [Text.join_singleton]⟩
      simp [Scan.done, Scan.finish]
  | t :: u :: us, _, hp, ps, n => by
      have hb : (Text.join [','] (t :: u :: us)).breaks
          = t.breaks + (Text.join [','] (u :: us)).breaks := by
        rw [Text.join_cons_cons, Text.breaks_append, List.singleton_append,
          Text.breaks_cons_of_ne (by decide)]
      obtain ⟨s, hs, hdone, hlines⟩ := scan_pieces (u :: us) (by simp)
        (fun v hv => hp v (List.mem_cons_of_mem _ hv)) (t :: ps) (n + t.breaks)
      refine ⟨s, ?_, ?_, by rw [hlines, hb, Nat.add_assoc]⟩
      · rw [Text.join_cons_cons, List.append_assoc, List.append_assoc, scan_piece (hp t (by simp)),
          List.singleton_append, scan_divide, List.append_nil, List.reverse_reverse]
        exact hs
      · rw [hdone]
        simp

/-! ## What is read was written -/

/-- The scan never ends well on an unfinished text. -/
theorem scan_backslash_ne_ok {out : Scan × Text} :
    scan ⟨d, q, false, p, ps, n⟩ ['\\'] ≠ .ok out := by
  simp [scan, Scan.closes]

/-- A scan that succeeds inside a string meets the quote that ends it. -/
theorem string_of_scan {out : Scan × Text} : ∀ (t p : Text) (n : Nat),
    scan ⟨d, true, false, p, ps, n⟩ t = .ok out →
      ∃ b r p' n', StringBody b ∧ t = b ++ '"' :: r ∧ scan ⟨d, false, false, p', ps, n'⟩ r = .ok out
  | [], _, _, h => nomatch h
  | c :: t, p, n, h => by
      by_cases hq : c = '"'
      · subst hq
        exact ⟨[], t, _, _, .nil, rfl, scan_quote ▸ h⟩
      · by_cases he : c = '\\'
        · subst he
          cases t with
          | nil => exact absurd h scan_backslash_ne_ok
          | cons c t =>
            rw [scan_escape] at h
            obtain ⟨b, r, p', n', hb, rfl, hr⟩ := string_of_scan t _ _ h
            exact ⟨'\\' :: c :: b, r, p', n', .escaped c hb, rfl, hr⟩
        · rw [scan_in_string he hq] at h
          obtain ⟨b, r, p', n', hb, rfl, hr⟩ := string_of_scan t _ _ h
          exact ⟨c :: b, r, p', n', .plain he hq hb, rfl, hr⟩

-- An item is shorter than the text it begins, and the inside of a group shorter than the group:
-- the recursion is on the length of the text, and a group reads its first item at the same length.
mutual

/-- A scan that succeeds outside a string, on a text that begins with neither a comma nor a closing
parenthesis, reads an item first. -/
theorem item_of_scan {out : Scan × Text} (c : Char) (t : Text) (d : Nat) (p : Text) (n : Nat)
    (hclose : c ≠ ')') (hcomma : c ≠ ',')
    (h : scan ⟨d + 1, false, false, p, ps, n⟩ (c :: t) = .ok out) :
    ∃ i r p' n', Item i ∧ c :: t = i ++ r ∧ r.length ≤ t.length
      ∧ scan ⟨d + 1, false, false, p', ps, n'⟩ r = .ok out := by
  by_cases he : c = '\\'
  · subst he
    cases t with
    | nil => exact absurd h scan_backslash_ne_ok
    | cons c t => exact ⟨['\\', c], t, _, _, .escaped c, rfl, by simp, scan_escape c ▸ h⟩
  by_cases hq : c = '"'
  · subst hq
    rw [scan_quote] at h
    obtain ⟨b, r, p', n', hb, rfl, hr⟩ := string_of_scan t _ _ h
    exact ⟨'"' :: (b ++ ['"']), r, p', n', .string hb, by simp, by simp; omega, hr⟩
  by_cases ho : c = '('
  · subst ho
    rw [scan_open] at h
    obtain ⟨g, r, p', n', hg, rfl, hr⟩ := group_of_scan t _ _ _ h
    exact ⟨'(' :: (g ++ [')']), r, p', n', .group hg, by simp, by simp; omega, hr⟩
  · have hp : IsPlain c := ⟨he, hq, ho, hclose, hcomma⟩
    exact ⟨[c], t, _, _, .plain hp, rfl, Nat.le_refl _, scan_plain hp ▸ h⟩
termination_by (t.length, 1)

/-- **A scan that succeeds inside parentheses meets the one that closes them.** -/
theorem group_of_scan {out : Scan × Text} (t : Text) (d : Nat) (p : Text) (n : Nat)
    (h : scan ⟨d + 2, false, false, p, ps, n⟩ t = .ok out) :
    ∃ g r p' n', Group g ∧ t = g ++ ')' :: r
      ∧ scan ⟨d + 1, false, false, p', ps, n'⟩ r = .ok out := by
  match t with
  | [] => exact nomatch h
  | c :: t =>
    by_cases hclose : c = ')'
    · subst hclose
      exact ⟨[], t, _, _, .nil, rfl, scan_close ▸ h⟩
    by_cases hcomma : c = ','
    · subst hcomma
      rw [scan_comma] at h
      obtain ⟨g, r, p', n', hg, rfl, hr⟩ := group_of_scan t _ _ _ h
      exact ⟨',' :: g, r, p', n', .comma hg, rfl, hr⟩
    · obtain ⟨i, u, p₁, n₁, hi, ht, _, hu⟩ := item_of_scan c t (d + 1) p n hclose hcomma h
      obtain ⟨g, r, p', n', hg, rfl, hr⟩ := group_of_scan u _ _ _ hu
      exact ⟨i ++ g, r, p', n', .item hi hg, by rw [ht, List.append_assoc], hr⟩
termination_by (t.length, 0)

end

/-- **A scan that succeeds on a call reads pieces and the parenthesis that closes it.** -/
theorem pieces_of_scan {s : Scan} {rest : Text} (t p : Text) (ps : List Text) (n : Nat)
    (h : scan ⟨1, false, false, p, ps, n⟩ t = .ok (s, rest)) :
    ∃ pieces : List Text, pieces ≠ [] ∧ (∀ u ∈ pieces, Piece u)
      ∧ t = Text.join [','] pieces ++ ')' :: rest := by
  match t with
  | [] => exact nomatch h
  | c :: t =>
    by_cases hclose : c = ')'
    · subst hclose
      rw [scan_closed] at h
      cases h
      exact ⟨[[]], by simp, by simp [Piece.nil], by simp⟩
    by_cases hcomma : c = ','
    · subst hcomma
      rw [scan_divide] at h
      obtain ⟨pieces, hne, hp, rfl⟩ := pieces_of_scan t _ _ _ h
      obtain ⟨u, us, rfl⟩ := List.exists_cons_of_ne_nil hne
      refine ⟨[] :: u :: us, by simp, ?_, by rw [Text.join_cons_cons]; rfl⟩
      exact List.forall_mem_cons.mpr ⟨.nil, hp⟩
    · obtain ⟨i, u, p₁, n₁, hi, ht, _, hu⟩ := item_of_scan c t 0 p n hclose hcomma h
      obtain ⟨pieces, hne, hp, rfl⟩ := pieces_of_scan u _ _ _ hu
      obtain ⟨v, vs, rfl⟩ := List.exists_cons_of_ne_nil hne
      obtain ⟨hv, hvs⟩ := List.forall_mem_cons.mp hp
      refine ⟨(i ++ v) :: vs, by simp, List.forall_mem_cons.mpr ⟨.item hi hv, hvs⟩, ?_⟩
      rw [ht, Text.join_append_cons, List.append_assoc]
termination_by t.length

/-- The only flaw of a scan is that its text ends. -/
theorem flaw_of_scan {flaw : Flaw} : ∀ (t : Text) (s : Scan),
    scan s t = .error flaw → ∃ depth, flaw = .unclosed depth
  | [], s, h => ⟨s.depth, (Except.error.inj h).symm⟩
  | c :: t, s, h => by
      rw [scan] at h
      split at h
      · exact nomatch h
      · exact flaw_of_scan t _ h

/-! ## The whole call -/

variable {code blanks rest : Text} {pieces : List Text}

/-- After blanks and an opening parenthesis, a call is what the scan finds. -/
theorem split_opened (hb : ∀ c ∈ blanks, Text.isBlank c = true) (r : Text) :
    split (blanks ++ '(' :: r)
      = (scan { lines := blanks.breaks } r).map fun out =>
          ⟨argumentsOf out.1.done, out.2, out.1.lines⟩ := by
  have hopen : Text.isBlank '(' = false := by decide
  rw [split, Text.dropWhile_blanks hb hopen, Text.takeWhile_blanks hb hopen]
  change (if '(' = '(' then _ else _) = _
  rw [if_pos rfl]
  cases scan { lines := blanks.breaks } r with
  | error flaw => rfl
  | ok out => rfl

/-- Without an opening parenthesis there is no call. -/
theorem split_unopened (h : code.find? (fun c => !Text.isBlank c) ≠ some '(') :
    split code = .error (.noOpening (code.find? fun c => !Text.isBlank c)) := by
  rw [← Text.head?_dropWhile_isBlank] at h ⊢
  rw [split]
  cases hc : code.dropWhile Text.isBlank with
  | nil => rfl
  | cons c r =>
    rw [hc] at h
    exact if_neg fun hopen => h (congrArg some hopen)

/-- A cut is found by the scan. -/
theorem Cut.exists_scan (h : Cut code blanks pieces rest) :
    ∃ r s, code = blanks ++ '(' :: r ∧ scan { lines := blanks.breaks } r = .ok (s, rest)
      ∧ s.done = pieces ∧ s.lines + rest.breaks = code.breaks := by
  obtain ⟨-, hne, hp, rfl⟩ := h
  obtain ⟨s, hs, hdone, hlines⟩ := scan_pieces (r := rest) pieces hne hp [] blanks.breaks
  refine ⟨_, s, rfl, hs, hdone, ?_⟩
  rw [hlines, Text.breaks_append, Text.breaks_cons_of_ne (by decide), Text.breaks_append,
    Text.breaks_cons_of_ne (by decide)]
  omega

/-- **A text is cut as a call in one way only.** -/
theorem Cut.unique {blanks' rest' : Text} {pieces' : List Text} (h : Cut code blanks pieces rest)
    (h' : Cut code blanks' pieces' rest') : blanks = blanks' ∧ pieces = pieces' ∧ rest = rest' := by
  obtain ⟨r, s, hcode, hs, hdone, -⟩ := h.exists_scan
  obtain ⟨r', s', hcode', hs', hdone', -⟩ := h'.exists_scan
  have hblanks : blanks = blanks' := by
    rw [← Text.takeWhile_blanks h.blank (by decide : Text.isBlank '(' = false) r, ← hcode, hcode',
      Text.takeWhile_blanks h'.blank (by decide : Text.isBlank '(' = false)]
  subst hblanks
  obtain rfl : r = r' := List.tail_eq_of_cons_eq (List.append_cancel_left (hcode.symm.trans hcode'))
  rw [hs] at hs'
  obtain ⟨rfl, rfl⟩ := Prod.mk.inj (Except.ok.inj hs')
  exact ⟨rfl, hdone.symm.trans hdone', rfl⟩

/-- **A text that is split is cut as a call.** -/
theorem exists_cut_of_split {call : Arguments} (h : split code = .ok call) :
    ∃ blanks pieces, Cut code blanks pieces call.remainder := by
  by_cases hopen : code.find? (fun c => !Text.isBlank c) = some '('
  · obtain ⟨-, blanks, r, rfl, hb⟩ := List.find?_eq_some_iff_append.mp hopen
    have hb' : ∀ c ∈ blanks, Text.isBlank c = true := fun c hc => by simpa using hb c hc
    rw [split_opened hb'] at h
    cases hs : scan { lines := Text.breaks blanks } r with
    | error flaw =>
      rw [hs] at h
      exact nomatch h
    | ok out =>
      rw [hs] at h
      obtain rfl := Except.ok.inj h
      obtain ⟨pieces, hne, hp, ht⟩ := pieces_of_scan r _ _ _ hs
      exact ⟨blanks, pieces, hb', hne, hp, congrArg (blanks ++ '(' :: ·) ht⟩
  · exact nomatch (split_unopened hopen).symm.trans h

/-- **A text cut as a call is split along the cut.** -/
theorem Cut.split_eq (h : Cut code blanks pieces rest) :
    ∃ lines, split code = .ok ⟨argumentsOf pieces, rest, lines⟩
      ∧ lines + rest.breaks = code.breaks := by
  obtain ⟨r, s, hcode, hs, hdone, hlines⟩ := h.exists_scan
  refine ⟨s.lines, ?_, hlines⟩
  rw [hcode, split_opened h.blank, hs, ← hdone]
  rfl

/-- One blank piece is no argument; otherwise every piece is one, without the blanks around it. -/
theorem argumentsOf_eq (pieces : List Text) :
    argumentsOf pieces
      = if pieces.length = 1 ∧ ∀ t ∈ pieces, ∀ c ∈ t, Text.isBlank c = true then []
        else pieces.map Text.trim := by
  match pieces with
  | [] => rfl
  | [t] =>
    by_cases h : ∀ c ∈ t, Text.isBlank c = true
    · rw [if_pos ⟨rfl, by simpa using h⟩, argumentsOf, List.map_singleton, Text.trim_eq_nil.mpr h]
    · rw [if_neg fun hb => h (hb.2 t (by simp)), argumentsOf, List.map_singleton]
      split
      · rename_i hnil
        exact absurd (Text.trim_eq_nil.mp (List.singleton_inj.mp hnil)) h
      · rfl
  | t :: u :: us => simp [argumentsOf]

/-- Every argument is a piece without the blanks around it. -/
theorem mem_map_of_mem_argumentsOf {t : Text} (h : t ∈ argumentsOf pieces) :
    t ∈ pieces.map Text.trim := by
  rw [argumentsOf_eq] at h
  split at h
  · exact nomatch h
  · exact h

/-- Every argument stands in the text between the parentheses. -/
theorem infix_of_mem_argumentsOf {t : Text} (h : t ∈ argumentsOf pieces) :
    t <:+: Text.join [','] pieces := by
  obtain ⟨u, hu, rfl⟩ := List.mem_map.mp (mem_map_of_mem_argumentsOf h)
  exact (Text.trim_infix u).trans (Text.infix_join hu)

/-- **What a split text consists of**: the text it was split in, the parenthesis that closes the
call, and the remainder. -/
theorem text_of_split {call : Arguments} (h : split code = .ok call) :
    ∃ t, code = t ++ ')' :: call.remainder ∧ call.lines = t.breaks
      ∧ ∀ a ∈ call.arguments, a <:+: t := by
  obtain ⟨blanks, pieces, hcut⟩ := exists_cut_of_split h
  obtain ⟨lines, hl, hlines⟩ := hcut.split_eq
  obtain ⟨arguments, rest, lines'⟩ := call
  obtain ⟨rfl, -, rfl⟩ := Arguments.mk.inj (Except.ok.inj (h.symm.trans hl))
  have hcode : code = (blanks ++ '(' :: Text.join [','] pieces) ++ ')' :: rest := by
    rw [hcut.code_eq, List.append_assoc, List.cons_append]
  refine ⟨_, hcode, ?_, fun a ha => ?_⟩
  · rw [hcode, Text.breaks_append, Text.breaks_cons_of_ne (by decide)] at hlines
    exact Nat.add_right_cancel hlines
  · refine (infix_of_mem_argumentsOf ha).trans (List.IsSuffix.isInfix ?_)
    exact ⟨blanks ++ ['('], by simp⟩

/-- What a call without a cut is blamed for. -/
theorem kind_of_split {flaw : Flaw} (h : split code = .error flaw) :
    flaw.kind = if code.find? (fun c => !Text.isBlank c) = some '(' then .unbalanced
      else .malformed := by
  split
  · rename_i hopen
    obtain ⟨-, blanks, r, rfl, hb⟩ := List.find?_eq_some_iff_append.mp hopen
    rw [split_opened fun c hc => by simpa using hb c hc] at h
    cases hs : scan { lines := Text.breaks blanks } r with
    | error flaw' =>
      rw [hs] at h
      obtain ⟨depth, hd⟩ := flaw_of_scan r _ hs
      rw [← Except.error.inj h, hd]
      rfl
    | ok out =>
      rw [hs] at h
      exact nomatch h
  · rename_i hopen
    rw [split_unopened hopen] at h
    rw [← Except.error.inj h]
    rfl

/-- **Calls are split exactly by the grammar.**  A text has at most one cut; it is split if it has
one, into the rest, the pieces without the blanks around them, and the breaks before the rest; and
otherwise it is blamed for its first character or for its end. -/
theorem split_exactly_by_cut (code : Text) :
    ((∃ call, split code = .ok call) ↔ ∃ blanks pieces rest, Cut code blanks pieces rest)
      ∧ (∀ blanks pieces rest blanks' pieces' rest', Cut code blanks pieces rest →
          Cut code blanks' pieces' rest' → blanks = blanks' ∧ pieces = pieces' ∧ rest = rest')
      ∧ (∀ blanks pieces rest, Cut code blanks pieces rest →
          ∃ call, split code = .ok call ∧ call.remainder = rest
            ∧ call.arguments
                = (if pieces.length = 1 ∧ ∀ t ∈ pieces, ∀ c ∈ t, Text.isBlank c = true then []
                    else pieces.map Text.trim)
            ∧ call.lines + rest.breaks = code.breaks)
      ∧ ((¬ ∃ blanks pieces rest, Cut code blanks pieces rest) →
          ∃ flaw, split code = .error flaw
            ∧ flaw.kind = if code.find? (fun c => !Text.isBlank c) = some '(' then .unbalanced
                else .malformed) := by
  refine ⟨⟨?_, ?_⟩, ?_, ?_, ?_⟩
  · rintro ⟨call, h⟩
    obtain ⟨blanks, pieces, hcut⟩ := exists_cut_of_split h
    exact ⟨blanks, pieces, _, hcut⟩
  · rintro ⟨blanks, pieces, rest, h⟩
    obtain ⟨lines, hl, -⟩ := h.split_eq
    exact ⟨_, hl⟩
  · exact fun _ _ _ _ _ _ h h' => h.unique h'
  · intro blanks pieces rest h
    obtain ⟨lines, hl, hlines⟩ := h.split_eq
    exact ⟨_, hl, rfl, argumentsOf_eq pieces, hlines⟩
  · intro hnone
    cases hl : split code with
    | error flaw => exact ⟨flaw, rfl, kind_of_split hl⟩
    | ok call =>
      obtain ⟨blanks, pieces, hcut⟩ := exists_cut_of_split hl
      exact absurd ⟨blanks, pieces, _, hcut⟩ hnone

end CallEdits.Call

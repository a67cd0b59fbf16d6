import DependencyAtlas.Proofs.Results
import DependencyAtlas.Status
import Mathlib.Data.List.TakeWhile

namespace DependencyAtlas.Console.Markup

theorem piecesFrom_tag {cs body : List Char} (h : body? cs = some body) (n : Nat) :
    piecesFrom n 0 ('[' :: cs) = .tag n body :: piecesFrom 0 (body.length + 1) cs := by
  simp [piecesFrom, h]

theorem piecesFrom_char {c : Char} {cs : List Char} (hslash : c ≠ '\\')
    (hplain : c = '[' → body? cs = none) (n : Nat) :
    piecesFrom n 0 (c :: cs) = (slashes n).map .char ++ .char c :: piecesFrom 0 0 cs := by
  by_cases hc : c = '['
  · simp [piecesFrom, hc, hplain hc]
  · simp [piecesFrom, hslash, hc]

theorem piecesFrom_slashes (m n : Nat) (cs : List Char) :
    piecesFrom n 0 (slashes m ++ cs) = piecesFrom (n + m) 0 cs := by
  induction m generalizing n with
  | zero => rfl
  | succ m ih =>
    have hstep : piecesFrom n 0 (slashes (m + 1) ++ cs) = piecesFrom (n + 1) 0 (slashes m ++ cs) := rfl
    rw [hstep, ih, Nat.add_right_comm, Nat.add_assoc]

theorem piecesFrom_passed (n : Nat) (passed cs : List Char) :
    piecesFrom n passed.length (passed ++ cs) = piecesFrom n 0 cs := by
  induction passed with
  | nil => rfl
  | cons c passed ih => exact ih

def Closes (cs : List Char) : Prop :=
  (cs.dropWhile inTag).head? = some ']'

theorem body?_cons_eq_none_iff {c : Char} {cs : List Char} :
    body? (c :: cs) = none ↔ ¬ (beginsTag c = true ∧ Closes cs) := by
  rw [body?, Closes]
  by_cases hc : beginsTag c = true
  · rw [if_pos hc]
    rcases hrest : cs.dropWhile inTag with _ | ⟨d, rest⟩
    · simp
    · by_cases hd : d = ']'
      · simp [hd, hc]
      · simp [hd]
  · simp [hc]

theorem inTag_of_beginsTag {c : Char} (h : beginsTag c = true) : inTag c = true := by
  by_contra hc
  simp only [inTag, Bool.and_eq_true, bne_iff_ne, not_and_or, not_not] at hc
  rcases hc with rfl | rfl <;> exact absurd h (by decide)

def IsBody (body : List Char) : Prop :=
  (∃ c rest, body = c :: rest ∧ beginsTag c = true) ∧ ∀ c ∈ body, inTag c = true

theorem isBody_of_body? {cs body : List Char} (h : body? cs = some body) : IsBody body := by
  rcases cs with _ | ⟨c, cs⟩
  · cases h
  rw [body?] at h
  split at h
  · rename_i hc
    split at h
    · cases h
      refine ⟨⟨c, _, rfl, hc⟩, ?_⟩
      intro d hd
      rcases List.mem_cons.mp hd with rfl | hd
      · exact inTag_of_beginsTag hc
      · exact List.mem_takeWhile_imp hd
    · cases h
  · cases h

theorem IsBody.body? {body : List Char} (h : IsBody body) (rest : List Char) :
    body? (body ++ ']' :: rest) = some body := by
  obtain ⟨⟨c, body, rfl, hc⟩, hall⟩ := h
  have hinside : ∀ d ∈ body, inTag d = true := fun d hd => hall d (List.mem_cons_of_mem c hd)
  rw [List.cons_append, Markup.body?, if_pos hc, List.dropWhile_append_of_pos hinside,
    List.takeWhile_append_of_pos hinside]
  simp [inTag]

def escapedFrom (n skip : Nat) (cs : List Char) : List Char :=
  (piecesFrom n skip cs).flatMap escapedPiece

theorem escaped_slashes (n : Nat) : ((slashes n).map Piece.char).flatMap escapedPiece = slashes n := by
  induction n with
  | zero => rfl
  | succ n ih => exact congrArg ('\\' :: ·) ih

theorem escapedFrom_tag {cs body : List Char} (h : body? cs = some body) (n : Nat) :
    escapedFrom n 0 ('[' :: cs) =
      slashes (2 * n + 1) ++ bracketed body ++ escapedFrom 0 (body.length + 1) cs := by
  rw [escapedFrom, piecesFrom_tag h]
  rfl

theorem escapedFrom_char {c : Char} {cs : List Char} (hslash : c ≠ '\\')
    (hplain : c = '[' → body? cs = none) (n : Nat) :
    escapedFrom n 0 (c :: cs) = slashes n ++ c :: escapedFrom 0 0 cs := by
  rw [escapedFrom, piecesFrom_char hslash hplain, List.flatMap_append, escaped_slashes]
  rfl

theorem closes_slashes {n : Nat} {cs : List Char} : Closes (slashes n ++ cs) ↔ Closes cs := by
  have hall : ∀ c ∈ slashes n, inTag c = true := by
    intro c hc
    rw [List.eq_of_mem_replicate hc]
    rfl
  rw [Closes, List.dropWhile_append_of_pos hall, Closes]

theorem closes_cons {c : Char} {cs : List Char} (h : inTag c = true) : Closes (c :: cs) ↔ Closes cs := by
  rw [Closes, List.dropWhile_cons_of_pos h, Closes]

theorem not_closes_bracket (cs : List Char) : ¬ Closes ('[' :: cs) := by
  simp [Closes, inTag]

theorem char_cases (c : Char) (cs : List Char) :
    c = '\\' ∨ (∃ body, c = '[' ∧ body? cs = some body) ∨
      c ≠ '\\' ∧ (c = '[' → body? cs = none) := by
  by_cases hslash : c = '\\'
  · exact .inl hslash
  · rcases hbody : body? cs with _ | body
    · exact .inr (.inr ⟨hslash, fun _ => rfl⟩)
    · by_cases hc : c = '['
      · exact .inr (.inl ⟨body, hc, rfl⟩)
      · exact .inr (.inr ⟨hslash, fun h => absurd h hc⟩)

theorem body?_of_not_closes {cs : List Char} (h : ¬ Closes cs) : body? cs = none := by
  cases cs with
  | nil => rfl
  | cons c cs =>
    exact body?_cons_eq_none_iff.mpr fun hc =>
      h ((closes_cons (inTag_of_beginsTag hc.1)).mpr hc.2)

section

variable (j : Nat) {tail : List Char} (htail : ¬ Closes tail)

include htail

theorem closes_of_escaped {n : Nat} {cs : List Char}
    (h : Closes (escapedFrom n 0 cs ++ (slashes j ++ tail))) : Closes cs := by
  induction cs generalizing n with
  | nil =>
    rw [escapedFrom, piecesFrom, escaped_slashes, closes_slashes, closes_slashes] at h
    exact absurd h htail
  | cons c cs ih =>
    rcases char_cases c cs with rfl | ⟨body, rfl, hbody⟩ | ⟨hslash, hplain⟩
    · exact (closes_cons rfl).mpr (ih (n := n + 1) h)
    · rw [escapedFrom_tag hbody, List.append_assoc, List.append_assoc, closes_slashes] at h
      exact absurd h (not_closes_bracket _)
    · rw [escapedFrom_char hslash hplain, List.append_assoc, closes_slashes, List.cons_append] at h
      by_cases hc : inTag c = true
      · rw [closes_cons hc] at h ⊢
        exact ih h
      · rw [Closes, List.dropWhile_cons_of_neg hc] at h ⊢
        exact h

omit htail in
theorem escapedFrom_slash (n : Nat) (cs : List Char) :
    ∃ rest, escapedFrom (n + 1) 0 cs ++ (slashes j ++ tail) = '\\' :: rest := by
  induction cs generalizing n with
  | nil =>
    rw [escapedFrom, piecesFrom, escaped_slashes]
    exact ⟨_, rfl⟩
  | cons c cs ih =>
    rcases char_cases c cs with rfl | ⟨body, rfl, hbody⟩ | ⟨hslash, hplain⟩
    · exact ih (n + 1)
    · rw [escapedFrom_tag hbody]
      exact ⟨_, rfl⟩
    · rw [escapedFrom_char hslash hplain]
      exact ⟨_, rfl⟩

theorem body?_escaped {cs : List Char} (h : body? cs = none) :
    body? (escapedFrom 0 0 cs ++ (slashes j ++ tail)) = none := by
  rcases cs with _ | ⟨c, cs⟩
  · cases j with
    | zero => exact body?_of_not_closes htail
    | succ j => exact body?_cons_eq_none_iff.mpr fun hc => absurd hc.1 (by decide)
  rcases char_cases c cs with rfl | ⟨body, rfl, hbody⟩ | ⟨hslash, hplain⟩
  · obtain ⟨rest, hrest⟩ := @escapedFrom_slash j tail 0 cs
    have hescaped : escapedFrom 0 0 ('\\' :: cs) = escapedFrom 1 0 cs := rfl
    rw [hescaped, hrest]
    exact body?_cons_eq_none_iff.mpr fun hc => absurd hc.1 (by decide)
  · rw [escapedFrom_tag hbody]
    exact body?_cons_eq_none_iff.mpr fun hc => absurd hc.1 (by decide)
  · rw [escapedFrom_char hslash hplain]
    rw [body?_cons_eq_none_iff] at h
    exact body?_cons_eq_none_iff.mpr fun hc => h ⟨hc.1, closes_of_escaped j htail hc.2⟩

def Piece.IsText : Piece → Prop
  | .char _ => True
  | .tag n _ => n % 2 = 1

theorem pieces_escaped (n skip : Nat) (cs : List Char) :
    ∃ ps k, (∀ p ∈ ps, Piece.IsText p) ∧
      piecesFrom 0 0 (escapedFrom n skip cs ++ (slashes j ++ tail)) = ps ++ piecesFrom k 0 tail := by
  induction cs generalizing n skip with
  | nil =>
    refine ⟨[], n + j, nofun, ?_⟩
    rw [escapedFrom, piecesFrom, escaped_slashes, piecesFrom_slashes, piecesFrom_slashes,
      Nat.zero_add, List.nil_append]
  | cons c cs ih =>
    cases skip with
    | succ skip => exact ih n skip
    | zero =>
      rcases char_cases c cs with rfl | ⟨body, rfl, hbody⟩ | ⟨hslash, hplain⟩
      · exact ih (n + 1) 0
      · obtain ⟨ps, k, hps, hrest⟩ := ih 0 (body.length + 1)
        have hinside := (isBody_of_body? hbody).body?
          (escapedFrom 0 (body.length + 1) cs ++ (slashes j ++ tail))
        have hpassed := piecesFrom_passed 0 (body ++ [']'])
          (escapedFrom 0 (body.length + 1) cs ++ (slashes j ++ tail))
        refine ⟨.tag (2 * n + 1) body :: ps, k, ?_, ?_⟩
        · rintro p (_ | ⟨_, hp⟩)
          · simp only [Piece.IsText]
            omega
          · exact hps p hp
        · rw [escapedFrom_tag hbody, bracketed]
          simp only [List.append_assoc, List.cons_append, List.nil_append]
          rw [piecesFrom_slashes, piecesFrom_tag hinside, Nat.zero_add, ← hrest, ← hpassed]
          simp
      · obtain ⟨ps, k, hps, hrest⟩ := ih 0 0
        refine ⟨(slashes n).map .char ++ .char c :: ps, k, ?_, ?_⟩
        · intro p hp
          rcases List.mem_append.mp hp with hslashes | hp
          · obtain ⟨_, -, rfl⟩ := List.mem_map.mp hslashes
            trivial
          · rcases List.mem_cons.mp hp with rfl | hp
            · trivial
            · exact hps p hp
        · rw [escapedFrom_char hslash hplain, List.append_assoc, piecesFrom_slashes, Nat.zero_add,
            List.cons_append, piecesFrom_char hslash, hrest, List.append_assoc, List.cons_append]
          intro hc
          exact body?_escaped j htail (hplain hc)

end

theorem escapeChars_eq (cs : List Char) : ∃ j, escapeChars cs = escapedFrom 0 0 cs ++ slashes j := by
  rw [escapeChars]
  split
  · exact ⟨1, rfl⟩
  · exact ⟨0, (List.append_nil _).symm⟩

def dress (opened : List String) (written : List Char) : List (Char × List String) :=
  written.map (·, opened)

theorem dress_chars (opened : List String) (written : List Char) :
    (dress opened written).map Prod.fst = written := by
  simp [dress, Function.comp_def]

def styled (position : Nat) (opened : List String) :
    List Piece → Except Fault (List (Char × List String))
  | [] => .ok []
  | .char '\\' :: .char '[' :: rest => do
    return ('[', opened) :: (← styled (position + 2) opened rest)
  | .char c :: rest => do
    return (c, opened) :: (← styled (position + 1) opened rest)
  | .tag n body :: rest => do
    let next := position + n + body.length + 2
    if n % 2 = 1 then
      return dress opened (slashes (n / 2) ++ bracketed body) ++ (← styled next opened rest)
    else
      let inner ← afterTag (position + n) body opened
      return dress opened (slashes (n / 2)) ++ (← styled next inner rest)

theorem shown_eq_map (position : Nat) (opened : List String) (ps : List Piece) :
    shown position opened ps = (styled position opened ps).map (List.map Prod.fst) := by
  fun_induction styled position opened ps with
  | case1 => rfl
  | case2 position opened rest ih =>
    rw [shown, ih]
    cases styled (position + 2) opened rest <;> rfl
  | case3 position opened c rest hplain ih =>
    rw [shown, ih]
    · cases styled (position + 1) opened rest <;> rfl
    · exact hplain
  | case4 position opened n body rest next hodd ih =>
    rw [shown, if_pos hodd, ih]
    cases styled next opened rest with
    | error fault => rfl
    | ok cs => simp [Except.map, dress_chars]
  | case5 position opened n body rest next heven ih =>
    rw [shown, if_neg heven]
    cases afterTag (position + n) body opened with
    | error fault => rfl
    | ok inner =>
      rw [ok_bind, ok_bind, ih]
      cases styled next inner rest with
      | error fault => rfl
      | ok cs => simp [Except.map, dress_chars]

section

variable {opened : List String} {rest : List Piece}

/-- The pieces are shown without fault wherever they stand, all of it in the styles that are open. -/
def Shows (opened : List String) (ps : List Piece) : Prop :=
  ∀ position, ∃ cs, styled position opened ps = .ok cs ∧ ∀ c ∈ cs, c.2 = opened

theorem Shows.shown (h : Shows opened rest) (position : Nat) :
    ∃ cs, shown position opened rest = .ok cs := by
  obtain ⟨cs, hcs, -⟩ := h position
  rw [shown_eq_map, hcs]
  exact ⟨_, rfl⟩

theorem forall_dressed {written : List Char} {cs : List (Char × List String)}
    (h : ∀ c ∈ cs, c.2 = opened) : ∀ c ∈ dress opened written ++ cs, c.2 = opened := by
  intro c hc
  rcases List.mem_append.mp hc with hc | hc
  · obtain ⟨_, -, rfl⟩ := List.mem_map.mp hc
    rfl
  · exact h c hc

theorem Shows.char (h : Shows opened rest) (c : Char) : Shows opened (.char c :: rest) := by
  intro position
  rw [styled.eq_def]
  split
  · rename_i heq
    cases heq
  · rename_i rest' heq
    cases heq
    -- The bracket after the slash is shown with it, and it was known to be shown alone.
    obtain ⟨_, hbracket, hdressed⟩ := h (position + 1)
    obtain ⟨cs, hcs, ⟨⟩⟩ := bind_eq_ok_iff.mp hbracket
    exact ⟨_, bind_eq_ok_iff.mpr ⟨cs, hcs, rfl⟩, hdressed⟩
  · rename_i heq
    cases heq
    obtain ⟨cs, hcs, hdressed⟩ := h (position + 1)
    exact ⟨_, bind_eq_ok_iff.mpr ⟨cs, hcs, rfl⟩, List.forall_mem_cons.mpr ⟨rfl, hdressed⟩⟩
  · rename_i heq
    cases heq

theorem Shows.tag (h : Shows opened rest) {n : Nat} (hn : n % 2 = 1) (body : List Char) :
    Shows opened (.tag n body :: rest) := by
  intro position
  obtain ⟨cs, hcs, hdressed⟩ := h (position + n + body.length + 2)
  rw [styled, if_pos hn, hcs]
  exact ⟨_, rfl, forall_dressed hdressed⟩

theorem Shows.texts {ps : List Piece} (hps : ∀ p ∈ ps, Piece.IsText p) (h : Shows opened rest) :
    Shows opened (ps ++ rest) := by
  induction ps with
  | nil => exact h
  | cons p ps ih =>
    have hrest := ih fun q hq => hps q (List.mem_cons_of_mem p hq)
    cases p with
    | char c => exact hrest.char c
    | tag n body => exact hrest.tag (hps _ List.mem_cons_self) body

end

theorem piecesFrom_body {body : List Char} (h : IsBody body) (n : Nat) (rest : List Char) :
    piecesFrom n 0 ('[' :: (body ++ ']' :: rest)) = .tag n body :: piecesFrom 0 0 rest := by
  have hpassed := piecesFrom_passed 0 (body ++ [']']) rest
  rw [piecesFrom_tag (h.body? rest), ← hpassed]
  simp

structure IsStyle (style : List Char) : Prop where
  body : IsBody style
  closing : IsBody ('/' :: style)
  afterTag : ∀ position opened,
    afterTag position style opened = .ok (StyleName.normal style :: opened)
  afterClosing : ∀ position, Markup.afterTag position ('/' :: style) [StyleName.normal style] = .ok []

namespace IsStyle

variable {style : List Char} (h : IsStyle style)

include h

theorem closing_shows (k : Nat) : Shows [StyleName.normal style] [.tag k ('/' :: style)] := by
  intro position
  rw [styled, h.afterClosing]
  split
  · exact ⟨_, rfl, forall_dressed nofun⟩
  · exact ⟨_, rfl, forall_dressed nofun⟩

theorem dresses {ps : List Piece} {k : Nat} (hps : ∀ p ∈ ps, Piece.IsText p) :
    ∃ cs, styled 0 [] (.tag 0 style :: (ps ++ [.tag k ('/' :: style)])) = .ok cs ∧
      ∀ c ∈ cs, c.2 = [StyleName.normal style] := by
  obtain ⟨cs, hcs, hdressed⟩ := (h.closing_shows k).texts hps (0 + 0 + style.length + 2)
  rw [styled, if_neg (by decide), h.afterTag, ok_bind, hcs]
  exact ⟨cs, rfl, hdressed⟩

theorem render {s : String} {ps : List Piece} {k : Nat} (hps : ∀ p ∈ ps, Piece.IsText p)
    (hpieces : pieces s.toList = .tag 0 style :: (ps ++ [.tag k ('/' :: style)])) :
    ∃ text, render s = .ok text := by
  obtain ⟨cs, hcs, -⟩ := h.dresses (k := k) hps
  rw [Markup.render, hpieces, shown_eq_map, hcs]
  exact ⟨_, rfl⟩

end IsStyle

theorem isStyle_dim : IsStyle "dim".toList where
  body := ⟨⟨_, _, rfl, rfl⟩, List.all_eq_true.mp rfl⟩
  closing := ⟨⟨_, _, rfl, rfl⟩, List.all_eq_true.mp rfl⟩
  afterTag _ _ := rfl
  afterClosing _ := rfl

theorem piecesFrom_plain {cs : List Char} (h : ∀ c ∈ cs, c ≠ '\\' ∧ c ≠ '[') (rest : List Char) :
    piecesFrom 0 0 (cs ++ rest) = cs.map .char ++ piecesFrom 0 0 rest := by
  induction cs with
  | nil => rfl
  | cons c cs ih =>
    rw [List.forall_mem_cons] at h
    rw [List.cons_append, piecesFrom_char h.1.1 fun hc => absurd hc h.1.2, ih h.2]
    rfl

theorem isText_of_char {cs : List Char} : ∀ p ∈ cs.map Piece.char, p.IsText := by
  intro p hp
  obtain ⟨c, -, rfl⟩ := List.mem_map.mp hp
  trivial

theorem render_dim {s : String} (h : ∀ c ∈ s.toList, c ≠ '\\' ∧ c ≠ '[') :
    ∃ text, render ("[dim]" ++ s ++ "[/dim]") = .ok text := by
  have hwritten : ("[dim]" ++ s ++ "[/dim]").toList =
      '[' :: ("dim".toList ++ ']' :: (s.toList ++ '[' :: ('/' :: "dim".toList ++ [']']))) := by
    simp
  apply isStyle_dim.render isText_of_char (k := 0)
  rw [hwritten, pieces, piecesFrom_body isStyle_dim.body, piecesFrom_plain h,
    piecesFrom_body isStyle_dim.closing]
  rfl

theorem pieces_plain {cs : List Char} (h : ∀ c ∈ cs, c ≠ '\\' ∧ c ≠ '[') (n : Nat) (tail : List Char) :
    ∃ ps k, (∀ p ∈ ps, Piece.IsText p) ∧
      piecesFrom n 0 (cs ++ tail) = ps ++ piecesFrom k 0 tail := by
  cases cs with
  | nil => exact ⟨[], n, nofun, rfl⟩
  | cons c cs =>
    rw [List.forall_mem_cons] at h
    refine ⟨((slashes n) ++ c :: cs).map .char, 0, isText_of_char, ?_⟩
    rw [List.cons_append, piecesFrom_char h.1.1 fun hc => absurd hc h.1.2, piecesFrom_plain h.2]
    simp

theorem pieces_between (before cs after tail : List Char) (hbefore : ∀ c ∈ before, c ≠ '\\' ∧ c ≠ '[')
    (hafter : ∀ c ∈ after, c ≠ '\\' ∧ c ≠ '[') (htail : ¬ Closes (after ++ tail)) :
    ∃ ps k, (∀ p ∈ ps, Piece.IsText p) ∧
      piecesFrom 0 0 (before ++ (escapeChars cs ++ (after ++ tail))) = ps ++ piecesFrom k 0 tail := by
  obtain ⟨j, hescape⟩ := escapeChars_eq cs
  obtain ⟨ps, k, hps, hpieces⟩ := pieces_escaped j htail 0 0 cs
  obtain ⟨qs, k', hqs, hplain⟩ := pieces_plain hafter k tail
  refine ⟨before.map .char ++ (ps ++ qs), k', ?_, ?_⟩
  · intro p hp
    rcases List.mem_append.mp hp with hp | hp
    · exact isText_of_char p hp
    · exact (List.mem_append.mp hp).elim (hps p) (hqs p)
  · rw [piecesFrom_plain hbefore, hescape, List.append_assoc, hpieces, hplain]
    simp only [List.append_assoc]

theorem shows_nil (opened : List String) : Shows opened [] :=
  fun _ => ⟨[], rfl, nofun⟩

theorem render_clicked (id : String) : ∃ text, render ("Clicked " ++ escape id) = .ok text := by
  have hwritten : ("Clicked " ++ escape id).toList =
      "Clicked ".toList ++ (escapeChars id.toList ++ ([] ++ [])) := by
    simp [escape]
  obtain ⟨ps, k, hps, hpieces⟩ :=
    pieces_between "Clicked ".toList id.toList [] [] (by simp) nofun nofun
  have hend : piecesFrom k 0 [] = (slashes k).map .char := rfl
  obtain ⟨cs, hcs⟩ : ∃ cs, shown 0 [] (pieces ("Clicked " ++ escape id).toList) = .ok cs := by
    rw [hwritten, pieces, hpieces, hend, ← List.append_nil (List.map _ _)]
    exact (((shows_nil []).texts isText_of_char).texts hps).shown 0
  rw [render, hcs]
  exact ⟨_, rfl⟩

theorem render_noElement (id : String) :
    ∃ text, render ("[dim]No element " ++ escape id ++ " in the graph.[/dim]") = .ok text := by
  have hwritten : ("[dim]No element " ++ escape id ++ " in the graph.[/dim]").toList =
      '[' :: ("dim".toList ++ ']' :: ("No element ".toList ++ (escapeChars id.toList ++
        (" in the graph.".toList ++ '[' :: ('/' :: "dim".toList ++ [']']))))) := by
    simp [escape]
  have hopen : ¬ Closes (" in the graph.".toList ++ '[' :: ('/' :: "dim".toList ++ [']'])) := by
    rw [Closes]
    decide
  obtain ⟨ps, k, hps, hpieces⟩ :=
    pieces_between "No element ".toList id.toList " in the graph.".toList _ (by simp) (by simp) hopen
  apply isStyle_dim.render hps (k := k)
  rw [hwritten, pieces, piecesFrom_body isStyle_dim.body, hpieces, piecesFrom_body isStyle_dim.closing]
  rfl

end DependencyAtlas.Console.Markup

namespace DependencyAtlas

open Console Console.Markup

theorem Severity.isStyle (severity : Severity) : IsStyle severity.style.toList := by
  cases severity <;> exact
    ⟨⟨⟨_, _, rfl, rfl⟩, List.all_eq_true.mp rfl⟩, ⟨⟨_, _, rfl, rfl⟩, List.all_eq_true.mp rfl⟩,
      fun _ _ => rfl, fun _ => rfl⟩

theorem Message.pieces_markup (m : Message) :
    ∃ ps k, (∀ p ∈ ps, Piece.IsText p) ∧
      pieces m.markup.toList =
        .tag 0 m.severity.style.toList :: (ps ++ [.tag k ('/' :: m.severity.style.toList)]) := by
  obtain ⟨j, hescape⟩ := escapeChars_eq m.text.toList
  obtain ⟨ps, k, hps, hpieces⟩ :=
    pieces_escaped j (not_closes_bracket ('/' :: m.severity.style.toList ++ [']'])) 0 0 m.text.toList
  have hmarkup : m.markup.toList = '[' :: (m.severity.style.toList ++ ']' ::
      (escapeChars m.text.toList ++ '[' :: ('/' :: m.severity.style.toList ++ [']']))) := by
    simp [Message.markup, escape]
  refine ⟨ps, k, hps, ?_⟩
  rw [hmarkup, hescape, pieces, piecesFrom_body m.severity.isStyle.body, List.append_assoc, hpieces,
    piecesFrom_body m.severity.isStyle.closing]
  rfl

theorem Message.render_markup (m : Message) : ∃ text, render m.markup = .ok text := by
  obtain ⟨ps, k, hps, hpieces⟩ := m.pieces_markup
  exact m.severity.isStyle.render hps hpieces

theorem Console.Markup.render_warning (s : String) :
    ∃ text, render ("[yellow]" ++ escape s ++ "[/yellow]") = .ok text := by
  have hmarkup : (⟨s, .warning⟩ : Message).markup = "[yellow]" ++ escape s ++ "[/yellow]" := by
    apply String.toList_inj.mp
    simp [Message.markup, Severity.style]
  rw [← hmarkup]
  exact Message.render_markup _

end DependencyAtlas

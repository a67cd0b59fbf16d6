import DependencyAtlas.Proofs.Session.Printing

/-!
Tags in texts. In a markup text a tag is found wherever the expression `(\\*)\[([a-z#/@][^[]*?)\]` matches, from
left to right, and one with an odd number of backslashes is shown as it is. A message brings the tags of its style
into its markup and none of its own, so its text is shown in this style and in no other.
-/

namespace DependencyAtlas

namespace Console.Markup

structure Matches (cs : List Char) (n : Nat) (body rest : List Char) : Prop where
  text : cs = slashes n ++ (bracketed body ++ rest)
  inside : ∃ c others, body = c :: others ∧ beginsTag c = true ∧ '[' ∉ others

structure Found (cs : List Char) (n : Nat) (body rest : List Char) : Prop extends
    Matches cs n body rest where
  shortest : ∀ n' body' rest', Matches cs n' body' rest' → body.length ≤ body'.length

/-- From left to right a text splits into the tags that are found and the characters between them. -/
inductive Splits : List Char → List Piece → Prop
  | nil : Splits [] []
  | tag {cs body rest : List Char} {n : Nat} {ps : List Piece} (h : Found cs n body rest)
    (hrest : Splits rest ps) : Splits cs (.tag n body :: ps)
  | char {c : Char} {cs : List Char} {ps : List Piece} (h : ∀ n body rest, ¬ Matches (c :: cs) n body rest)
    (hrest : Splits cs ps) : Splits (c :: cs) (.char c :: ps)

theorem slashes_inj {m n : Nat} {cs rest : List Char} (hslash : cs.head? ≠ some '\\')
    (h : slashes m ++ cs = slashes n ++ '[' :: rest) : m = n ∧ cs = '[' :: rest := by
  induction m generalizing n with
  | zero =>
    cases n with
    | zero => exact ⟨rfl, h⟩
    | succ n =>
      rw [show cs = '\\' :: (slashes n ++ '[' :: rest) from h] at hslash
      exact absurd rfl hslash
  | succ m ih =>
    cases n with
    | zero =>
      have hhead := congrArg List.head? h
      cases hhead
    | succ n =>
      obtain ⟨rfl, hrest⟩ := ih (List.cons.inj h).2
      exact ⟨rfl, hrest⟩

theorem bracketed_append (body rest : List Char) : bracketed body ++ rest = '[' :: (body ++ ']' :: rest) := by
  simp [bracketed]

theorem closes_of_not_mem {cs : List Char} (h : '[' ∉ cs) (rest : List Char) : Closes (cs ++ ']' :: rest) := by
  induction cs with
  | nil => rfl
  | cons c cs ih =>
    rw [List.mem_cons, not_or] at h
    by_cases hc : c = ']'
    · rw [hc]
      rfl
    · have hin : inTag c = true := by
        rw [inTag, Bool.and_eq_true, bne_iff_ne, bne_iff_ne]
        exact ⟨Ne.symm h.1, hc⟩
      exact (closes_cons hin).mpr (ih h.2)

theorem eq_of_body? {cs body : List Char} (h : body? cs = some body) : ∃ rest, cs = body ++ ']' :: rest := by
  rcases cs with _ | ⟨c, cs⟩
  · cases h
  rw [body?] at h
  split at h
  · split at h
    · next rest hrest =>
      cases h
      refine ⟨rest, ?_⟩
      rw [List.cons_append, ← hrest, List.takeWhile_append_dropWhile]
    · cases h
  · cases h

namespace Matches

variable {cs body rest body' rest' : List Char} {n n' : Nat}

theorem bodies (h : Matches cs n body rest) (h' : Matches cs n' body' rest') :
    n = n' ∧ body ++ ']' :: rest = body' ++ ']' :: rest' := by
  have htext := h.text.symm.trans h'.text
  rw [bracketed_append, bracketed_append] at htext
  obtain ⟨hn, hbodies⟩ := slashes_inj (by simp) htext
  exact ⟨hn, (List.cons.inj hbodies).2⟩

theorem found (h : Matches cs n body rest) (hclosed : ']' ∉ body) : Found cs n body rest where
  toMatches := h
  shortest _ body' rest' h' := by
    by_contra hlt
    rw [not_le] at hlt
    have hbracket := congrArg (fun xs => xs[body'.length]?) (h.bodies h').2
    simp only [List.getElem?_append_left hlt, List.getElem?_append_right (le_refl _), Nat.sub_self,
      List.getElem?_cons_zero] at hbracket
    exact hclosed (List.mem_of_getElem? hbracket)

end Matches

theorem found_of_body? {cs body rest : List Char} (h : body? cs = some body) (hcs : cs = body ++ ']' :: rest)
    (n : Nat) : Found (slashes n ++ '[' :: cs) n body rest := by
  obtain ⟨⟨c, others, rfl, hc⟩, hall⟩ := isBody_of_body? h
  have hout {d : Char} (hd : inTag d = false) : d ∉ c :: others := by
    intro hmem
    rw [hall d hmem] at hd
    cases hd
  refine Matches.found ⟨?_, c, others, rfl, hc, ?_⟩ (hout rfl)
  · rw [bracketed_append, hcs]
  · exact fun hmem => hout rfl (List.mem_cons_of_mem c hmem)

theorem Found.unique {cs body rest body' rest' : List Char} {n n' : Nat} (h : Found cs n body rest)
    (h' : Found cs n' body' rest') : n = n' ∧ body = body' ∧ rest = rest' := by
  obtain ⟨hn, hbodies⟩ := h.toMatches.bodies h'.toMatches
  have hlength := le_antisymm (h.shortest _ _ _ h'.toMatches) (h'.shortest _ _ _ h.toMatches)
  obtain ⟨hbody, hrest⟩ := List.append_inj hbodies hlength
  exact ⟨hn, hbody, (List.cons.inj hrest).2⟩

theorem not_matches {cs : List Char} (hslash : cs.head? ≠ some '\\')
    (hplain : ∀ rest, cs = '[' :: rest → body? rest = none) (m n : Nat) (body rest : List Char) :
    ¬ Matches (slashes m ++ cs) n body rest := by
  rintro ⟨htext, c, others, rfl, hc, hothers⟩
  rw [bracketed_append] at htext
  obtain ⟨-, hcs⟩ := slashes_inj hslash htext
  have hnone := hplain _ hcs
  rw [List.cons_append, body?_cons_eq_none_iff] at hnone
  exact hnone ⟨hc, closes_of_not_mem hothers rest⟩

theorem splits_slashes {cs : List Char} {ps : List Piece}
    (h : ∀ m n body rest, ¬ Matches (slashes m ++ cs) n body rest) (hps : Splits cs ps) (m : Nat) :
    Splits (slashes m ++ cs) ((slashes m).map .char ++ ps) := by
  induction m with
  | zero => exact hps
  | succ m ih => exact .char (h (m + 1)) ih

theorem splits_piecesFrom (n skip : Nat) (cs : List Char) :
    Splits (slashes n ++ cs.drop skip) (piecesFrom n skip cs) := by
  induction cs generalizing n skip with
  | nil =>
    rw [List.drop_nil, piecesFrom, ← List.append_nil (List.map _ _)]
    exact splits_slashes (not_matches (by simp) (by simp)) .nil n
  | cons c cs ih =>
    cases skip with
    | succ skip => exact ih n skip
    | zero =>
      rw [List.drop_zero]
      rcases char_cases c cs with rfl | ⟨body, rfl, hbody⟩ | ⟨hslash, hplain⟩
      · have hslashes : slashes n ++ '\\' :: cs = slashes (n + 1) ++ cs := by
          simp [slashes, List.replicate_succ']
        rw [hslashes]
        exact ih (n + 1) 0
      · obtain ⟨rest, hcs⟩ := eq_of_body? hbody
        have hrest := ih 0 (body.length + 1)
        rw [piecesFrom_tag hbody]
        refine .tag (found_of_body? hbody hcs n) ?_
        rw [hcs] at hrest ⊢
        simpa [slashes] using hrest
      · rw [piecesFrom_char hslash hplain]
        have hnone (m n : Nat) (body rest : List Char) : ¬ Matches (slashes m ++ c :: cs) n body rest := by
          refine not_matches (by simpa using hslash) ?_ m n body rest
          rintro rest ⟨⟩
          exact hplain rfl
        exact splits_slashes hnone (.char (hnone 0) (ih 0 0)) n

theorem Splits.unique {cs : List Char} {ps qs : List Piece} (h : Splits cs ps) (h' : Splits cs qs) : ps = qs := by
  induction h generalizing qs with
  | nil =>
    cases h' with
    | nil => rfl
    | tag hfound =>
      have hlength := congrArg List.length hfound.text
      simp [bracketed] at hlength
  | tag hfound _ ih =>
    cases h' with
    | nil =>
      have hlength := congrArg List.length hfound.text
      simp [bracketed] at hlength
    | tag hfound' hrest =>
      obtain ⟨rfl, rfl, rfl⟩ := hfound.unique hfound'
      rw [ih hrest]
    | char hnone => exact absurd hfound.toMatches (hnone _ _ _)
  | char hnone _ ih =>
    cases h' with
    | tag hfound => exact absurd hfound.toMatches (hnone _ _ _)
    | char _ hrest => rw [ih hrest]

theorem splits_iff {cs : List Char} {ps : List Piece} : Splits cs ps ↔ ps = pieces cs := by
  have hpieces : Splits cs (pieces cs) := splits_piecesFrom 0 0 cs
  constructor
  · intro h
    exact h.unique hpieces
  · rintro rfl
    exact hpieces

end Console.Markup

open Console.Markup

theorem Severity.normal_style (severity : Severity) :
    Console.StyleName.normal severity.style.toList = severity.style := by
  cases severity <;> decide

/-- Whatever the text of a message, its markup has the tag that opens its style, then text, and at its end the tag
that closes the style, or that tag as text. Printing it never fails, and shows it in this style throughout. -/
theorem Message.keeps_to_style (m : Message) :
    ∃ texts k, (∀ p ∈ texts, Piece.IsText p) ∧
      (∀ ps, Splits m.markup.toList ps ↔
        ps = .tag 0 m.severity.style.toList :: (texts ++ [.tag k ('/' :: m.severity.style.toList)])) ∧
      ∃ cs, styled 0 [] (pieces m.markup.toList) = .ok cs ∧ (∀ c ∈ cs, c.2 = [m.severity.style]) ∧
        ∀ w : Session.World, Session.print m.markup w = (.ok (), { w with
          printed := w.printed ++
            [String.ofList (expandTabs 0 ((cs.map Prod.fst).filter (!isControl ·))) ++ "\n"] }) := by
  obtain ⟨texts, k, htexts, hpieces⟩ := m.pieces_markup
  obtain ⟨cs, hcs, hdressed⟩ := m.severity.isStyle.dresses (k := k) htexts
  refine ⟨texts, k, htexts, fun ps => ?_, cs, ?_, ?_, fun w => ?_⟩
  · rw [splits_iff, hpieces]
  · rw [hpieces, hcs]
  · rw [← m.severity.normal_style]
    exact hdressed
  · have hrender : render m.markup =
        .ok (String.ofList (expandTabs 0 ((cs.map Prod.fst).filter (!isControl ·)))) := by
      rw [render, shown_eq_map, hpieces, hcs]
      rfl
    exact Session.write_of_text hrender "\n" w

-- Three backslashes end the text, and the tag after them stands in the place of the one that closes the style.
example : pieces (Message.markup ⟨"\\\\\\", .error⟩).toList = [.tag 0 "red".toList, .tag 3 "/red".toList] := by
  decide

end DependencyAtlas

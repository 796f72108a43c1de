import EstreeEmitter.Text.Scan

set_option autoImplicit false

/-! # Cuts of a text

`Cuts Covers stretches text` says that stretches make up a text: a kept character stands for itself,
and a piece for a text that it covers. Cutting a text with a recogniser makes such stretches
(`cuts_cut`). What an edit of the pieces does to the whole text then follows from what it does to a
single piece. -/

namespace EstreeEmitter.Text

/-- The stretches make up the text, with pieces that cover what `Covers` says. -/
inductive Cuts {α : Type} (Covers : α → List Char → Prop) :
    List (Stretch α) → List Char → Prop where
  | nil : Cuts Covers [] []
  | keep {c : Char} {stretches : List (Stretch α)} {rest : List Char}
    (h : Cuts Covers stretches rest) : Cuts Covers (.keep c :: stretches) (c :: rest)
  | found {piece : α} {text rest : List Char} {stretches : List (Stretch α)}
    (hp : Covers piece text) (h : Cuts Covers stretches rest) :
    Cuts Covers (.found piece :: stretches) (text ++ rest)

section

variable {α : Type} {Covers : α → List Char → Prop}

/-- Cutting loses nothing, if every piece that is recognised covers at least one character. -/
theorem cuts_cut {find? : List Char → List Char → Option (α × Nat)}
    (h : ∀ {before rest piece n}, find? before rest = some (piece, n) →
      1 ≤ n ∧ Covers piece (rest.take n)) (before : List Char) (skip : Nat) (code : List Char) :
    Cuts Covers (cut find? before skip code) (code.drop skip) := by
  induction code generalizing before skip with
  | nil =>
      rw [List.drop_nil, cut]
      exact .nil
  | cons c cs ih =>
      cases skip with
      | succ skip => exact ih (c :: before) skip
      | zero =>
          rw [cut, List.drop_zero]
          cases hf : find? before (c :: cs) with
          | none => exact .keep (ih (c :: before) 0)
          | some found =>
              obtain ⟨piece, n⟩ := found
              obtain ⟨hn, hp⟩ := h hf
              have hdrop : cs.drop (n - 1) = (c :: cs).drop n := by
                obtain ⟨n, rfl⟩ := Nat.exists_eq_add_of_le' hn
                rfl
              have hrest := ih (c :: before) (n - 1)
              rw [hdrop] at hrest
              rw [← List.take_append_drop n (c :: cs)]
              exact .found hp hrest

/-- What belongs to a piece already found only moves on. -/
theorem cut_skip (find? : List Char → List Char → Option (α × Nat)) (before : List Char)
    (skip : Nat) (code : List Char) :
    cut find? before skip code =
      cut find? ((code.take skip).reverse ++ before) 0 (code.drop skip) := by
  induction code generalizing before skip with
  | nil => simp only [List.drop_nil, cut]
  | cons c cs ih =>
      cases skip with
      | zero => rfl
      | succ skip =>
          rw [cut, ih (c :: before) skip]
          simp

/-- A recognised piece is one stretch, and the scan goes on behind it. -/
theorem cut_found {find? : List Char → List Char → Option (α × Nat)} {before text : List Char}
    {piece : α} (hne : text ≠ []) {rest : List Char}
    (h : find? before (text ++ rest) = some (piece, text.length)) :
    cut find? before 0 (text ++ rest) =
      .found piece :: cut find? (text.reverse ++ before) 0 rest := by
  obtain ⟨c, cs, rfl⟩ := List.exists_cons_of_ne_nil hne
  have hskip := cut_skip find? (c :: before) cs.length (cs ++ rest)
  rw [List.take_left, List.drop_left] at hskip
  rw [List.cons_append] at h ⊢
  rw [cut, h]
  dsimp only
  rw [List.length_cons, Nat.add_sub_cancel, hskip]
  simp

theorem cut_keep {find? : List Char → List Char → Option (α × Nat)} {before cs : List Char}
    {c : Char} (h : find? before (c :: cs) = none) :
    cut find? before 0 (c :: cs) = .keep c :: cut find? (c :: before) 0 cs := by
  rw [cut, h]

/-- Where nothing is recognised, the text is kept. -/
theorem cut_append_of_none {find? : List Char → List Char → Option (α × Nat)}
    {before text rest : List Char}
    (h : ∀ front c behind, text = front ++ c :: behind →
      find? (front.reverse ++ before) (c :: (behind ++ rest)) = none) :
    cut find? before 0 (text ++ rest) =
      text.map .keep ++ cut find? (text.reverse ++ before) 0 rest := by
  induction text generalizing before with
  | nil => rfl
  | cons c text ih =>
      have hrest : ∀ front d behind, text = front ++ d :: behind →
          find? (front.reverse ++ c :: before) (d :: (behind ++ rest)) = none := by
        intro front d behind ht
        simpa using h (c :: front) d behind (by rw [ht, List.cons_append])
      have hfirst : find? before (c :: (text ++ rest)) = none := h [] c text rfl
      rw [List.cons_append, cut_keep hfirst, ih hrest]
      simp

theorem paste_map_keep (write : α → List Char) (cs : List Char) :
    paste write (cs.map .keep) = cs := by
  simp [paste, List.flatMap_map]

theorem pieces_map_keep (cs : List Char) : pieces (cs.map (Stretch.keep (α := α))) = [] := by
  simp [pieces]

theorem paste_cons (write : α → List Char) (s : Stretch α) (stretches : List (Stretch α)) :
    paste write (s :: stretches) = paste write [s] ++ paste write stretches := by
  simp [paste]

/-- A piece was recognised somewhere. -/
theorem exists_find?_of_mem_pieces {find? : List Char → List Char → Option (α × Nat)}
    {before : List Char} {skip : Nat} {code : List Char} {piece : α}
    (h : piece ∈ pieces (cut find? before skip code)) :
    ∃ before rest n, find? before rest = some (piece, n) := by
  induction code generalizing before skip with
  | nil =>
      rw [cut] at h
      cases h
  | cons c cs ih =>
      cases skip with
      | succ skip => exact ih h
      | zero =>
          rw [cut] at h
          cases hf : find? before (c :: cs) with
          | none =>
              rw [hf] at h
              exact ih h
          | some found =>
              rw [hf] at h
              rcases List.mem_cons.mp h with rfl | h
              · exact ⟨before, c :: cs, found.2, hf⟩
              · exact ih h

theorem paste_append (write : α → List Char) (front behind : List (Stretch α)) :
    paste write (front ++ behind) = paste write front ++ paste write behind := List.flatMap_append

theorem pieces_append (front behind : List (Stretch α)) :
    pieces (front ++ behind) = pieces front ++ pieces behind := List.filterMap_append

/-- Edits that agree on the pieces give the same text. -/
theorem paste_congr {write write' : α → List Char} {stretches : List (Stretch α)}
    (h : ∀ piece ∈ pieces stretches, write piece = write' piece) :
    paste write stretches = paste write' stretches := by
  induction stretches with
  | nil => rfl
  | cons s stretches ih =>
      rw [paste_cons write, paste_cons write']
      cases s with
      | keep c => rw [ih h]; rfl
      | found piece =>
          obtain ⟨hpiece, hrest⟩ := List.forall_mem_cons.mp h
          rw [ih hrest]
          simp [paste, hpiece]

/-- A stretch with another piece for the piece. -/
def Stretch.map {β : Type} (edit : α → β) : Stretch α → Stretch β
  | .keep c => .keep c
  | .found piece => .found (edit piece)

theorem paste_map {β : Type} (write : β → List Char) (edit : α → β)
    (stretches : List (Stretch α)) :
    paste write (stretches.map (Stretch.map edit)) = paste (write ∘ edit) stretches := by
  rw [paste, List.flatMap_map, paste]
  refine congrArg (List.flatMap · stretches) (funext fun s => ?_)
  cases s <;> rfl

theorem pieces_map {β : Type} (edit : α → β) (stretches : List (Stretch α)) :
    pieces (stretches.map (Stretch.map edit)) = (pieces stretches).map edit := by
  rw [pieces, List.filterMap_map, pieces, List.map_filterMap]
  refine congrArg (List.filterMap · stretches) (funext fun s => ?_)
  cases s <;> rfl

/-- An edit that leaves every piece as it is leaves the text as it is. -/
theorem Cuts.paste_eq {write : α → List Char} {stretches : List (Stretch α)} {text : List Char}
    (h : Cuts Covers stretches text)
    (hw : ∀ piece ∈ pieces stretches, ∀ covered, Covers piece covered → write piece = covered) :
    paste write stretches = text := by
  induction h with
  | nil => rfl
  | keep h ih =>
      rw [paste_cons, ih hw]
      rfl
  | @found piece covered rest stretches hp h ih =>
      have hpiece := hw piece List.mem_cons_self covered hp
      have hrest := ih fun p hm => hw p (List.mem_cons_of_mem _ hm)
      rw [paste_cons, hrest]
      simp [paste, hpiece]

end

/-! ## Recognisers that only look ahead -/

section

variable {α : Type} {find? : List Char → Option (α × Nat)}

/-- For a recogniser that only looks ahead, what came before does not matter. -/
theorem cut_ahead (before before' : List Char) (skip : Nat) (code : List Char) :
    cut (fun _ rest => find? rest) before skip code =
      cut (fun _ rest => find? rest) before' skip code := by
  induction code generalizing before before' skip with
  | nil => simp only [cut]
  | cons c cs ih =>
      cases skip with
      | succ skip => exact ih (c :: before) (c :: before') skip
      | zero =>
          rw [cut, cut]
          split
          · rw [ih (c :: before) (c :: before')]
          · rw [ih (c :: before) (c :: before')]

theorem cut_ahead_found {c : Char} {cs : List Char} {piece : α} {n : Nat}
    (h : find? (c :: cs) = some (piece, n)) (hn : 1 ≤ n) :
    cut (fun _ rest => find? rest) [] 0 (c :: cs) =
      .found piece :: cut (fun _ rest => find? rest) [] 0 ((c :: cs).drop n) := by
  obtain ⟨n, rfl⟩ := Nat.exists_eq_add_of_le' hn
  rw [cut, h]
  dsimp only
  rw [cut_skip, cut_ahead _ []]
  rfl

theorem cut_ahead_keep {c : Char} {cs : List Char} (h : find? (c :: cs) = none) :
    cut (fun _ rest => find? rest) [] 0 (c :: cs) =
      .keep c :: cut (fun _ rest => find? rest) [] 0 cs := by
  rw [cut_keep h, cut_ahead _ []]

/-- Induction along a scan: at every place a piece is recognised, or a character is kept. -/
theorem ahead_induction (find? : List Char → Option (α × Nat)) {motive : List Char → Prop}
    (hn : ∀ {code piece n}, find? code = some (piece, n) → 1 ≤ n) (nil : motive [])
    (found : ∀ c cs piece n, find? (c :: cs) = some (piece, n) → motive ((c :: cs).drop n) →
      motive (c :: cs))
    (keep : ∀ c cs, find? (c :: cs) = none → motive cs → motive (c :: cs))
    (code : List Char) : motive code := by
  induction hlen : code.length using Nat.strongRecOn generalizing code with
  | _ length ih =>
      cases code with
      | nil => exact nil
      | cons c cs =>
          rw [List.length_cons] at hlen
          cases hf : find? (c :: cs) with
          | none => exact keep c cs hf (ih cs.length (by omega) cs rfl)
          | some piece =>
              have hpos := hn hf
              refine found c cs _ _ hf (ih _ ?_ _ rfl)
              rw [List.length_drop, List.length_cons]
              omega

end

end EstreeEmitter.Text

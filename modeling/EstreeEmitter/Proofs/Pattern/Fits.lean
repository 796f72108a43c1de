import EstreeEmitter.Pattern.Match
import EstreeEmitter.Proofs.Text.Cut

set_option autoImplicit false

/-! # Texts that patterns cover

`Fits p captures text captures'` says which texts a pattern can cover and what its groups hold
afterwards, without places, continuations and backtracking. It leaves conditions on places out and
lets a repetition go on for any number of times, so it holds of more texts than are found; whatever
the matcher finds, it holds of (`sound_run`), and the matches with what stands between them make up
the text (`cuts_stretches`). -/

namespace EstreeEmitter.Pattern

open Text

/-! ## Places -/

/-- The second place lies behind the first one, with the given text between them. -/
structure Cursor.Passes (k : Cursor) (text : List Char) (k' : Cursor) : Prop where
  after_eq : k.after = text ++ k'.after
  before_eq : k'.before = text.reverse ++ k.before
  place_eq : k'.place = k.place + text.length

namespace Cursor

theorem passes_refl (k : Cursor) : k.Passes [] k := ⟨rfl, rfl, rfl⟩

theorem Passes.trans {k k' k'' : Cursor} {text text' : List Char} (h : k.Passes text k')
    (h' : k'.Passes text' k'') : k.Passes (text ++ text') k'' where
  after_eq := by rw [h.after_eq, h'.after_eq, List.append_assoc]
  before_eq := by rw [h'.before_eq, h.before_eq, List.reverse_append, List.append_assoc]
  place_eq := by rw [h'.place_eq, h.place_eq, List.length_append, Nat.add_assoc]

theorem passes_of_next? {k k' : Cursor} {c : Char} (h : k.next? = some (c, k')) :
    k.Passes [c] k' := by
  obtain ⟨place, before, after⟩ := k
  cases after with
  | nil => cases h
  | cons d ds =>
      obtain ⟨rfl, rfl⟩ := Prod.mk.inj (Option.some.inj h)
      exact ⟨rfl, rfl, rfl⟩

theorem Passes.textSince {k k' : Cursor} {text : List Char} (h : k.Passes text k') :
    k'.textSince k.place = text := by
  have hl : k.place + text.length - k.place = text.reverse.length := by
    rw [List.length_reverse]
    omega
  rw [Cursor.textSince, h.place_eq, h.before_eq, hl, List.take_left, List.reverse_reverse]

theorem exists_passes_of_skipText? {folding : Folding} :
    ∀ (text : List Char) (k k' : Cursor), k.skipText? folding text = some k' →
      ∃ passed, k.Passes passed k'
  | [], k, k', h => by
      cases h
      exact ⟨[], passes_refl k⟩
  | c :: cs, k, k', h => by
      rw [skipText?] at h
      split at h
      · rename_i d next hn
        split at h
        · obtain ⟨passed, hp⟩ := exists_passes_of_skipText? cs next k' h
          exact ⟨[d] ++ passed, (passes_of_next? hn).trans hp⟩
        · cases h
      · cases h

end Cursor

/-! ## What a pattern covers -/

/-- The pattern can cover the text, and then its groups hold `captures'`. -/
inductive Fits : Pattern → Captures → List Char → Captures → Prop where
  | empty {captures} : Fits .empty captures [] captures
  | char {negated n folding c captures} (h : (folding.same n c.toNat != negated) = true) :
    Fits (.char negated n folding) captures [c] captures
  | set {s c captures} (h : s.contains c = true) : Fits (.set s) captures [c] captures
  | any {lineFeed c captures} : Fits (.any lineFeed) captures [c] captures
  | anchor {a captures} : Fits (.anchor a) captures [] captures
  | seq {p q captures captures' captures'' text text'} (h : Fits p captures text captures')
    (h' : Fits q captures' text' captures'') : Fits (.seq p q) captures (text ++ text') captures''
  | left {p q captures captures' text} (h : Fits p captures text captures') :
    Fits (.alt p q) captures text captures'
  | right {p q captures captures' text} (h : Fits q captures text captures') :
    Fits (.alt p q) captures text captures'
  | group {index p start captures captures' text}
    (h : Fits p ((index, ⟨start, none⟩) :: captures) text captures') :
    Fits (.group index p) captures text ((index, ⟨start, some text⟩) :: captures')
  | scope {p captures captures' text} (h : Fits p captures text captures') :
    Fits (.scope p) captures text captures'
  | stop {greed low high p captures} : Fits (.rep greed low high p) captures [] captures
  | again {greed low high p captures captures' captures'' text text'}
    (h : Fits p captures text captures')
    (h' : Fits (.rep greed low high p) captures' text' captures'') :
    Fits (.rep greed low high p) captures (text ++ text') captures''
  | backref {index folding captures text} : Fits (.backref index folding) captures text captures
  | ahead {negated p captures captures' text} (h : Fits p captures text captures') :
    Fits (.ahead negated p) captures [] captures'
  | notAhead {negated p captures} : Fits (.ahead negated p) captures [] captures
  | behind {negated width p captures captures' text} (h : Fits p captures text captures') :
    Fits (.behind negated width p) captures [] captures'
  | notBehind {negated width p captures} : Fits (.behind negated width p) captures [] captures
  | atomic {p captures captures' text} (h : Fits p captures text captures') :
    Fits (.atomic p) captures text captures'
  | yes {index p q captures captures' text} (h : Fits p captures text captures') :
    Fits (.ifGroup index p q) captures text captures'
  | no {index p q captures captures' text} (h : Fits q captures text captures') :
    Fits (.ifGroup index p q) captures text captures'

/-! ## The matcher finds nothing else -/

/-- Wherever the step leads to a match, its continuation was entered behind a text that fits. -/
def Sound (step : Step) (fits : Captures → List Char → Captures → Prop) : Prop :=
  ∀ (k : Cursor) (captures : Captures) (continue_ : Continuation) (r : Reached),
    step k captures continue_ = some r →
      ∃ text k' captures', k.Passes text k' ∧ fits captures text captures' ∧
        continue_ k' captures' = some r

theorem sound_once {step : Step} {fits : Captures → List Char → Captures → Prop}
    (h : Sound step fits) : Sound (once step) fits := by
  intro k captures continue_ r hr
  unfold once at hr
  split at hr
  · rename_i k' captures' hs
    obtain ⟨text, l, found, hp, hf, hl⟩ := h k captures _ _ hs
    cases hl
    exact ⟨text, k', captures', hp, hf, hr⟩
  · cases hr

theorem sound_iterate {body : Step} {fits more : Captures → List Char → Captures → Prop}
    (hb : Sound body fits) (hstop : ∀ captures, more captures [] captures)
    (hagain : ∀ {captures captures' captures'' text text'}, fits captures text captures' →
      more captures' text' captures'' → more captures (text ++ text') captures'')
    (lazy : Bool) (low : Nat) (high : Option Nat) :
    ∀ (fuel count : Nat) (last : Option Nat),
      Sound (iterate body lazy low high fuel count last) more := by
  intro fuel
  induction fuel with
  | zero =>
      intro count last k captures continue_ r hr
      cases hr
  | succ fuel ih =>
      intro count last k captures continue_ r hr
      -- a further iteration, whatever the place where the one before it started
      have hmore : ∀ last',
          (body k captures fun k' captures' =>
            iterate body lazy low high fuel (count + 1) last' k' captures' continue_) = some r →
          ∃ text k' captures', k.Passes text k' ∧ more captures text captures' ∧
            continue_ k' captures' = some r := by
        intro last' hbody
        obtain ⟨text, k', captures', hp, hf, hi⟩ := hb k captures _ r hbody
        obtain ⟨text', k'', captures'', hp', hm, hc⟩ := ih _ _ k' captures' continue_ r hi
        exact ⟨text ++ text', k'', captures'', hp.trans hp', hagain hf hm, hc⟩
      have hdone : continue_ k captures = some r →
          ∃ text k' captures', k.Passes text k' ∧ more captures text captures' ∧
            continue_ k' captures' = some r :=
        fun hc => ⟨[], k, captures, k.passes_refl, hstop captures, hc⟩
      rw [iterate] at hr
      split at hr
      · exact hmore _ hr
      · dsimp only at hr
        split at hr
        · split at hr
          · rename_i found hc
            exact hdone (hc.trans hr)
          · split at hr
            · exact hmore _ hr
            · cases hr
        · split at hr
          · rename_i found hc
            split at hc
            · exact hmore _ (hc.trans hr)
            · cases hc
          · exact hdone hr

theorem sound_next {fits : Captures → List Char → Captures → Prop} {accepts : Char → Bool}
    (h : ∀ {c captures}, accepts c = true → fits captures [c] captures) :
    Sound (fun k captures continue_ =>
      match k.next? with
      | some (c, k') => if accepts c then continue_ k' captures else none
      | none => none) fits := by
  intro k captures continue_ r hr
  dsimp only at hr
  split at hr
  · rename_i c k' hn
    split at hr
    · exact ⟨[c], k', captures, Cursor.passes_of_next? hn, h ‹_›, hr⟩
    · cases hr
  · cases hr

/-- **The matcher is sound.** A match of a pattern is found behind a text that fits it. -/
theorem sound_run (p : Pattern) : Sound (run p) (Fits p) := by
  induction p with
  | empty => exact fun k captures _ _ hr => ⟨[], k, captures, k.passes_refl, .empty, hr⟩
  | char negated n folding => exact sound_next .char
  | set s => exact sound_next .set
  | any lineFeed => exact sound_next fun _ => .any
  | anchor a =>
      intro k captures continue_ r hr
      rw [run] at hr
      split at hr
      · exact ⟨[], k, captures, k.passes_refl, .anchor, hr⟩
      · cases hr
  | seq p q ihp ihq =>
      intro k captures continue_ r hr
      obtain ⟨text, k', captures', hp, hf, hq⟩ := ihp k captures _ r hr
      obtain ⟨text', k'', captures'', hp', hf', hc⟩ := ihq k' captures' _ r hq
      exact ⟨text ++ text', k'', captures'', hp.trans hp', .seq hf hf', hc⟩
  | alt p q ihp ihq =>
      intro k captures continue_ r hr
      rw [run] at hr
      split at hr
      · rename_i found hp
        obtain ⟨text, k', captures', hpass, hf, hc⟩ := ihp k captures _ found hp
        exact ⟨text, k', captures', hpass, .left hf, hc.trans hr⟩
      · obtain ⟨text, k', captures', hpass, hf, hc⟩ := ihq k captures _ r hr
        exact ⟨text, k', captures', hpass, .right hf, hc⟩
  | group index p ih =>
      intro k captures continue_ r hr
      obtain ⟨text, k', captures', hp, hf, hc⟩ := ih k _ _ r hr
      rw [hp.textSince] at hc
      exact ⟨text, k', _, hp, .group hf, hc⟩
  | scope p ih =>
      intro k captures continue_ r hr
      obtain ⟨text, k', captures', hp, hf, hc⟩ := ih k captures _ r hr
      exact ⟨text, k', captures', hp, .scope hf, hc⟩
  | rep greed low high p ih =>
      intro k captures continue_ r hr
      cases greed with
      | greedy | lazy =>
          exact sound_iterate ih (fun _ => .stop) .again _ _ _ _ _ _ k captures continue_ r hr
      | possessive =>
          exact sound_once (sound_iterate (sound_once ih) (fun _ => .stop) .again _ _ _ _ _ _)
            k captures continue_ r hr
  | backref index folding =>
      intro k captures continue_ r hr
      rw [run] at hr
      split at hr
      · split at hr
        · rename_i k' hs
          obtain ⟨passed, hp⟩ := Cursor.exists_passes_of_skipText? _ k k' hs
          exact ⟨passed, k', captures, hp, .backref, hr⟩
        · cases hr
      · cases hr
  | ahead negated p ih =>
      intro k captures continue_ r hr
      unfold run at hr
      split at hr
      · rename_i l found hs
        obtain ⟨text, k', captures', -, hf, hl⟩ := ih k captures _ _ hs
        cases hl
        exact ⟨[], k, found, k.passes_refl, .ahead hf, hr⟩
      · exact ⟨[], k, captures, k.passes_refl, .notAhead, hr⟩
      · cases hr
  | behind negated width p ih =>
      intro k captures continue_ r hr
      unfold run at hr
      split at hr
      · split at hr
        · exact ⟨[], k, captures, k.passes_refl, .notBehind, hr⟩
        · cases hr
      · split at hr
        · rename_i start hback l found hs
          obtain ⟨text, k', captures', -, hf, hl⟩ := ih _ captures _ _ hs
          cases hl
          exact ⟨[], k, found, k.passes_refl, .behind hf, hr⟩
        · exact ⟨[], k, captures, k.passes_refl, .notBehind, hr⟩
        · cases hr
  | atomic p ih =>
      intro k captures continue_ r hr
      obtain ⟨text, k', captures', hp, hf, hc⟩ := sound_once ih k captures _ r hr
      exact ⟨text, k', captures', hp, .atomic hf, hc⟩
  | ifGroup index p q ihp ihq =>
      intro k captures continue_ r hr
      rw [run] at hr
      split at hr
      · obtain ⟨text, k', captures', hpass, hf, hc⟩ := ihp k captures _ r hr
        exact ⟨text, k', captures', hpass, .yes hf, hc⟩
      · obtain ⟨text, k', captures', hpass, hf, hc⟩ := ihq k captures _ r hr
        exact ⟨text, k', captures', hpass, .no hf, hc⟩

/-- A match at a place has the text that follows the place, and the pattern fits that text. -/
theorem matchAt?_eq_some {p : Pattern} {nonEmpty : Bool} {k : Cursor} {m : Match}
    (h : matchAt? p nonEmpty k = some m) :
    (∃ rest, k.after = m.text ++ rest) ∧ Fits p [] m.text m.captures ∧
      (nonEmpty = true → m.text ≠ []) := by
  obtain ⟨r, hr, rfl⟩ := Option.map_eq_some_iff.mp h
  obtain ⟨text, k', captures', hp, hf, hc⟩ := sound_run p k [] _ r hr
  split at hc
  · cases hc
  · rename_i hne
    cases hc
    rw [hp.textSince]
    refine ⟨⟨_, hp.after_eq⟩, hf, ?_⟩
    rintro rfl rfl
    have hplace : k'.place = k.place := hp.place_eq
    simp [hplace] at hne

/-! ## Cutting at the matches -/

/-- A match covers its text, and the pattern fits that text. -/
def MatchCovers (p : Pattern) (m : Match) (text : List Char) : Prop :=
  m.text = text ∧ Fits p [] text m.captures

/-- Cutting at the matches of a pattern loses nothing. -/
theorem cuts_cutMatches (p : Pattern) (place : Nat) (before : List Char) (skip : Nat)
    (code : List Char) :
    Cuts (MatchCovers p) (cutMatches p place before skip code) (code.drop skip) := by
  induction code generalizing place before skip with
  | nil =>
      rw [List.drop_nil, cutMatches]
      cases hm : matchAt? p false ⟨place, before, []⟩ with
      | none => exact .nil
      | some m =>
          obtain ⟨⟨rest, hr⟩, hf, -⟩ := matchAt?_eq_some hm
          have ht : m.text = [] := (List.append_eq_nil_iff.mp hr.symm).1
          rw [ht] at hf
          have hc : MatchCovers p m [] := ⟨ht, hf⟩
          exact .found hc .nil
  | cons c cs ih =>
      cases skip with
      | succ skip => exact ih _ _ skip
      | zero =>
          have hkeep := Cuts.keep (c := c) (ih (place + 1) (c :: before) 0)
          -- a match of something is followed by the rest of the text behind it
          have hfound : ∀ {nonEmpty m}, matchAt? p nonEmpty ⟨place, before, c :: cs⟩ = some m →
              m.text ≠ [] → Cuts (MatchCovers p)
                (.found m :: cutMatches p (place + 1) (c :: before) (m.text.length - 1) cs)
                (c :: cs) := by
            intro nonEmpty m hm hne
            obtain ⟨⟨rest, hr⟩, hf, -⟩ := matchAt?_eq_some hm
            have hr : c :: cs = m.text ++ rest := hr
            have hlen : 1 ≤ m.text.length := List.length_pos_iff.mpr hne
            have hdrop : cs.drop (m.text.length - 1) = rest := by
              have hd : (c :: cs).drop m.text.length = rest := by rw [hr, List.drop_left]
              obtain ⟨n, hn⟩ := Nat.exists_eq_add_of_le' hlen
              rw [hn] at hd ⊢
              exact hd
            have hrest := ih (place + 1) (c :: before) (m.text.length - 1)
            rw [hdrop] at hrest
            rw [hr]
            exact .found ⟨rfl, hf⟩ hrest
          rw [cutMatches, List.drop_zero]
          cases hm : matchAt? p false ⟨place, before, c :: cs⟩ with
          | none => exact hkeep
          | some m =>
              by_cases he : m.text.isEmpty = true
              · obtain ⟨-, hf, -⟩ := matchAt?_eq_some hm
                have ht : m.text = [] := List.isEmpty_iff.mp he
                rw [ht] at hf
                have hc : MatchCovers p m [] := ⟨ht, hf⟩
                simp only [he, if_true]
                refine Cuts.found hc ?_
                cases hm' : matchAt? p true ⟨place, before, c :: cs⟩ with
                | none => exact hkeep
                | some m' =>
                    obtain ⟨-, -, hne⟩ := matchAt?_eq_some hm'
                    exact hfound hm' (hne rfl)
              · simp only [he]
                exact hfound hm fun ht => he (List.isEmpty_iff.mpr ht)

theorem cuts_stretches (p : Pattern) (code : List Char) :
    Cuts (MatchCovers p) (p.stretches code) code :=
  cuts_cutMatches p 0 [] 0 code

end EstreeEmitter.Pattern

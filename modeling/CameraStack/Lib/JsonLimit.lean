/-
# A decoder that may go deeper

What a decoder reads it also reads when its recursion may go deeper.  So two decoders that
both read a text read the same value.
-/

import CameraStack.Lib.JsonScan

namespace CameraStack.Lib

variable {F : Type} [FloatText F]

/-- What is read with some fuel is read at any greater depth. -/
structure ReadsDeeper (F : Type) [FloatText F] (fuel : ℕ) : Prop where
  value : ∀ {depth deeper : ℕ} {text : Text} {found : JsonValue F × Text}, depth ≤ deeper →
    scanValue fuel depth text = .ok found → scanValue fuel deeper text = .ok found
  items : ∀ {depth deeper : ℕ} {text : Text} {found : List (JsonValue F) × Text},
    depth ≤ deeper → scanItems fuel depth text = .ok found →
      scanItems fuel deeper text = .ok found
  members : ∀ {depth deeper : ℕ} {text : Text} {found : List (Text × JsonValue F) × Text},
    depth ≤ deeper → scanMembers fuel depth text = .ok found →
      scanMembers fuel deeper text = .ok found

/-- One level down. -/
theorem oneDeeper_mono {A : Type} {inside : ℕ → Scan A} {depth deeper : ℕ} {found : A × Text}
    (hdepth : depth ≤ deeper)
    (hinside : ∀ {depth deeper}, depth ≤ deeper → inside depth = .ok found →
      inside deeper = .ok found)
    (h : oneDeeper depth inside = .ok found) : oneDeeper deeper inside = .ok found := by
  cases depth with
  | zero => cases h
  | succ depth =>
      obtain ⟨deeper, rfl⟩ := Nat.exists_eq_add_of_le' (Nat.lt_of_lt_of_le depth.succ_pos hdepth)
      exact hinside (Nat.le_of_succ_le_succ hdepth) h

namespace ReadsDeeper

variable {fuel depth deeper : ℕ} {text : Text}

theorem scanValue (ih : ReadsDeeper F fuel) {found : JsonValue F × Text} (hdepth : depth ≤ deeper)
    (h : scanValue (fuel + 1) depth text = .ok found) :
    Lib.scanValue (fuel + 1) deeper text = .ok found := by
  cases text with
  | nil => cases h
  | cons c rest =>
      rw [Lib.scanValue] at h ⊢
      by_cases hquote : c = '"'
      · rw [if_pos hquote] at h ⊢
        exact h
      · rw [if_neg hquote] at h ⊢
        by_cases hbrace : c = '{'
        · rw [if_pos hbrace] at h ⊢
          apply oneDeeper_mono hdepth _ h
          intro depth deeper hdepth h
          by_cases hempty : (skipBlanks rest).head? = some '}'
          · rw [if_pos hempty] at h ⊢
            exact h
          · rw [if_neg hempty] at h ⊢
            cases hinside : Lib.scanMembers (F := F) fuel depth (skipBlanks rest) with
            | error e => rw [hinside] at h; cases h
            | ok got =>
                rw [hinside] at h
                rw [ih.members hdepth hinside]
                exact h
        · rw [if_neg hbrace] at h ⊢
          by_cases hbracket : c = '['
          · rw [if_pos hbracket] at h ⊢
            apply oneDeeper_mono hdepth _ h
            intro depth deeper hdepth h
            by_cases hempty : (skipBlanks rest).head? = some ']'
            · rw [if_pos hempty] at h ⊢
              exact h
            · rw [if_neg hempty] at h ⊢
              cases hinside : Lib.scanItems (F := F) fuel depth (skipBlanks rest) with
              | error e => rw [hinside] at h; cases h
              | ok got =>
                  rw [hinside] at h
                  rw [ih.items hdepth hinside]
                  exact h
          · rw [if_neg hbracket] at h ⊢
            exact h

theorem scanItems (ih : ReadsDeeper F fuel) {found : List (JsonValue F) × Text}
    (hdepth : depth ≤ deeper) (h : scanItems (fuel + 1) depth text = .ok found) :
    Lib.scanItems (fuel + 1) deeper text = .ok found := by
  rw [Lib.scanItems] at h ⊢
  cases hfirst : Lib.scanValue (F := F) fuel depth text with
  | error e => rw [hfirst] at h; cases h
  | ok got =>
      obtain ⟨item, rest⟩ := got
      rw [hfirst] at h
      rw [ih.value hdepth hfirst]
      dsimp only at h ⊢
      cases hrest : skipBlanks rest with
      | nil => rw [hrest] at h; cases h
      | cons d rest =>
          rw [hrest] at h
          dsimp only at h ⊢
          by_cases hend : d = ']'
          · rw [if_pos hend] at h ⊢
            exact h
          · rw [if_neg hend] at h ⊢
            by_cases hcomma : d = ','
            · rw [if_pos hcomma] at h ⊢
              cases hinside : Lib.scanItems (F := F) fuel depth (skipBlanks rest) with
              | error e => rw [hinside] at h; cases h
              | ok got =>
                  rw [hinside] at h
                  rw [ih.items hdepth hinside]
                  exact h
            · rw [if_neg hcomma] at h
              cases h

theorem scanMembers (ih : ReadsDeeper F fuel) {found : List (Text × JsonValue F) × Text}
    (hdepth : depth ≤ deeper) (h : scanMembers (fuel + 1) depth text = .ok found) :
    Lib.scanMembers (fuel + 1) deeper text = .ok found := by
  cases text with
  | nil => cases h
  | cons c text =>
      rw [Lib.scanMembers] at h ⊢
      by_cases hquote : c = '"'
      · rw [if_pos hquote] at h ⊢
        cases hkey : scanString 0 text with
        | none => rw [hkey] at h; cases h
        | some got =>
            obtain ⟨key, rest⟩ := got
            rw [hkey] at h
            dsimp only at h ⊢
            cases hrest : skipBlanks rest with
            | nil => rw [hrest] at h; cases h
            | cons d rest =>
                rw [hrest] at h
                dsimp only at h ⊢
                by_cases hcolon : d = ':'
                · rw [if_pos hcolon] at h ⊢
                  cases hvalue : Lib.scanValue (F := F) fuel depth (skipBlanks rest) with
                  | error e => rw [hvalue] at h; cases h
                  | ok got =>
                      obtain ⟨value, rest⟩ := got
                      rw [hvalue] at h
                      rw [ih.value hdepth hvalue]
                      dsimp only at h ⊢
                      cases hrest : skipBlanks rest with
                      | nil => rw [hrest] at h; cases h
                      | cons d rest =>
                          rw [hrest] at h
                          dsimp only at h ⊢
                          by_cases hend : d = '}'
                          · rw [if_pos hend] at h ⊢
                            exact h
                          · rw [if_neg hend] at h ⊢
                            by_cases hcomma : d = ','
                            · rw [if_pos hcomma] at h ⊢
                              cases hinside :
                                  Lib.scanMembers (F := F) fuel depth (skipBlanks rest) with
                              | error e => rw [hinside] at h; cases h
                              | ok got =>
                                  rw [hinside] at h
                                  rw [ih.members hdepth hinside]
                                  exact h
                            · rw [if_neg hcomma] at h
                              cases h
                · rw [if_neg hcolon] at h
                  cases h
      · rw [if_neg hquote] at h
        cases h

end ReadsDeeper

theorem readsDeeper (fuel : ℕ) : ReadsDeeper F fuel := by
  induction fuel with
  | zero =>
      have hvalue : ∀ {depth : ℕ} {text : Text} {found : JsonValue F × Text},
          scanValue 0 depth text ≠ .ok found := by
        intro depth text found h
        rw [scanValue] at h
        cases h
      have hitems : ∀ {depth : ℕ} {text : Text} {found : List (JsonValue F) × Text},
          scanItems 0 depth text ≠ .ok found := by
        intro depth text found h
        rw [scanItems] at h
        cases h
      have hmembers : ∀ {depth : ℕ} {text : Text} {found : List (Text × JsonValue F) × Text},
          scanMembers 0 depth text ≠ .ok found := by
        intro depth text found h
        rw [scanMembers] at h
        cases h
      exact
        { value := fun _ h => absurd h hvalue
          items := fun _ h => absurd h hitems
          members := fun _ h => absurd h hmembers }
  | succ fuel ih =>
      exact { value := ih.scanValue, items := ih.scanItems, members := ih.scanMembers }

/-- What is read is read by every decoder that may go deeper. -/
theorem jsonLoads_mono {limit larger : ℕ} {text : Text} {v : JsonValue F} (hlimit : limit ≤ larger)
    (h : jsonLoads limit text = .ok v) : jsonLoads larger text = .ok v := by
  rw [jsonLoads] at h ⊢
  cases hscan : scanValue (F := F) (text.length + 1) limit (skipBlanks text) with
  | error e => rw [hscan] at h; cases h
  | ok found =>
      rw [hscan] at h
      rw [(readsDeeper (text.length + 1)).value hlimit hscan]
      exact h

/-- Two decoders that read a text read one value. -/
theorem jsonLoads_unique {limit other : ℕ} {text : Text} {v w : JsonValue F}
    (h : jsonLoads limit text = .ok v) (h' : jsonLoads other text = .ok w) : v = w := by
  have hv := jsonLoads_mono (Nat.le_max_left limit other) h
  have hw := jsonLoads_mono (Nat.le_max_right limit other) h'
  rw [hv] at hw
  exact Except.ok.inj hw

end CameraStack.Lib

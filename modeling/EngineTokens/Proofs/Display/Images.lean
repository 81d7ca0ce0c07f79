import EngineTokens.Display.Painting

/-!
# Images by their colors

An image is known by its size and by the color at each of its places (`Image.eq_of_at?`). The color
at a place is the one that was given for it, or the one that was put there last
(`Image.at?_tabulate`, `Image.exists_put?`).
-/

set_option autoImplicit false

namespace EngineTokens.Display.Image

/-- The place of a color gives its column and its row. -/
theorem index_mod {width x : Nat} (inside : x < width) (y : Nat) : (y * width + x) % width = x := by
  rw [Nat.mul_add_mod_self_right, Nat.mod_eq_of_lt inside]

/-- The row of a pixel is got back from its place. -/
theorem index_div {width x : Nat} (inside : x < width) (y : Nat) : (y * width + x) / width = y := by
  rw [Nat.add_comm, Nat.add_mul_div_right _ _ (Nat.zero_lt_of_lt inside),
    Nat.div_eq_of_lt inside, Nat.zero_add]

/-- Two places with the same index are the same. -/
theorem index_inj {width x y x' y' : Nat} (inside : x < width) (inside' : x' < width)
    (same : y * width + x = y' * width + x') : x = x' ∧ y = y' := by
  constructor
  · rw [← index_mod inside y, same, index_mod inside']
  · rw [← index_div inside y, same, index_div inside']

/-- A pixel of a picture has the color that was painted there. -/
theorem at?_tabulate {width height x y : Nat} (color : Nat → Nat → Rgba)
    (inside : x < width ∧ y < height) : (tabulate width height color).at? x y = some (color x y) := by
  rw [at?, tabulate, if_pos inside]
  simp [index_lt inside, index_mod inside.1, index_div inside.1]

/-- There is a color at every place inside an image. -/
theorem exists_at? {image : Image} {x y : Nat} (inside : x < image.width ∧ y < image.height) :
    ∃ color, image.at? x y = some color := by
  rw [at?, if_pos inside]
  exact ⟨_, Vector.getElem?_eq_getElem (index_lt inside)⟩

/-- Images of one size with the same color at every place are the same. -/
theorem eq_of_at? {image other : Image} (width : image.width = other.width)
    (height : image.height = other.height)
    (same : ∀ x y, x < image.width → y < image.height → image.at? x y = other.at? x y) :
    image = other := by
  obtain ⟨columns, rows, pixels⟩ := image
  obtain ⟨_, _, others⟩ := other
  cases width
  cases height
  congr 1
  apply Vector.ext
  intro i small
  -- every index is that of a place
  have wide : 0 < columns := Nat.pos_of_mul_pos_right (Nat.zero_lt_of_lt small)
  have inside : i % columns < columns ∧ i / columns < rows :=
    ⟨Nat.mod_lt i wide, Nat.div_lt_of_lt_mul small⟩
  have index : i / columns * columns + i % columns = i := Nat.div_add_mod' i columns
  have eq := same (i % columns) (i / columns) inside.1 inside.2
  simp only [at?, inside, and_self, if_true, index] at eq
  simpa [small] using eq

/-- What is put into an image shows at its place and nowhere else. -/
theorem exists_put? {image : Image} {x y : Nat} (inside : x < image.width ∧ y < image.height)
    (color : Rgba) :
    ∃ changed, image.put? x y color = some changed ∧ changed.width = image.width ∧
      changed.height = image.height ∧
      ∀ x' y', x' < image.width → y' < image.height →
        changed.at? x' y' = if x' = x ∧ y' = y then some color else image.at? x' y' := by
  refine ⟨_, dif_pos inside, rfl, rfl, ?_⟩
  intro x' y' column row
  simp only [at?, column, row, and_self, if_true]
  by_cases same : x' = x ∧ y' = y
  · obtain ⟨rfl, rfl⟩ := same
    simp [index_lt inside]
  · have apart : y * image.width + x ≠ y' * image.width + x' := by
      intro index
      obtain ⟨column, row⟩ := index_inj inside.1 column index
      exact same ⟨column.symm, row.symm⟩
    rw [if_neg same, Vector.getElem?_set_ne _ apart]

end EngineTokens.Display.Image

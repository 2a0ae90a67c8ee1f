import Mathlib.Algebra.BigOperators.Group.Finset.Piecewise
import Mathlib.Algebra.BigOperators.Group.Finset.Sigma
import Mathlib.Data.Int.Interval
import PixelBrush.Proofs.PainterAgreement
import PixelBrush.Proofs.Painting

/-! # Counting the cells of a color

A query for a color comes out as the number of cells of a box that are of this color.
The corners of the box may be given in any order, and a box that reaches off the canvas
counts nothing.  Counting is additive, and the colors share the box among them.
-/

namespace PixelBrush

instance : Fintype Color := ⟨⟨Color.all, by decide⟩, Color.mem_all⟩

theorem foldl_add_eq_sum {α : Type} (weight : α → Nat) (items : List α) (start : Nat) :
    items.foldl (fun total item => total + weight item) start =
      start + (items.map weight).sum := by
  induction items generalizing start with
  | nil => rfl
  | cons item later induction => simp [induction, Nat.add_assoc]

namespace Painting

/-! ### Boxes -/

/-- The cells of the box between two corners, in whatever order the corners are given. -/
def box (x₁ y₁ x₂ y₂ : Int) : Finset (Int × Int) :=
  Finset.uIcc x₁ x₂ ×ˢ Finset.uIcc y₁ y₂

theorem card_box (x₁ y₁ x₂ y₂ : Int) :
    (box x₁ y₁ x₂ y₂).card = ((x₂ - x₁).natAbs + 1) * ((y₂ - y₁).natAbs + 1) := by
  rw [box, Finset.card_product, Int.card_uIcc, Int.card_uIcc]

section Cut

variable {first last cut : Int} (least : min first last ≤ cut) (most : cut < max first last)

include least most

theorem uIcc_eq_union :
    Finset.uIcc first last =
      Finset.uIcc (min first last) cut ∪ Finset.uIcc (cut + 1) (max first last) := by
  ext number
  simp only [Finset.mem_union, Finset.mem_uIcc']
  omega

theorem disjoint_uIcc :
    Disjoint (Finset.uIcc (min first last) cut) (Finset.uIcc (cut + 1) (max first last)) := by
  rw [Finset.disjoint_left]
  intro number before behind
  simp only [Finset.mem_uIcc'] at before behind
  omega

end Cut

/-! ### Colored cells -/

section Colored

variable (painting : Painting) (shade : Color)

/-- The cells of a color among some cells. -/
def colored (cells : Finset (Int × Int)) : Finset (Int × Int) :=
  cells.filter fun cell => painting.color? cell.1 cell.2 = some shade

theorem card_colored_union {first second : Finset (Int × Int)} (apart : Disjoint first second) :
    (painting.colored shade (first ∪ second)).card =
      (painting.colored shade first).card + (painting.colored shade second).card := by
  unfold colored
  rw [Finset.filter_union]
  exact Finset.card_union_of_disjoint (Finset.disjoint_filter_filter apart)

theorem nodup_between (first last : Int) : (between first last).Nodup := by
  apply List.nodup_range.map
  intro step other same
  exact Int.ofNat.inj (Int.add_left_cancel same)

theorem toFinset_between (first last : Int) :
    (between first last).toFinset = Finset.uIcc first last := by
  ext number
  rw [List.mem_toFinset, mem_between, Finset.mem_uIcc']
  omega

theorem foldl_between (weight : Int → Nat) (first last : Int) (start : Nat) :
    (between first last).foldl (fun total number => total + weight number) start =
      start + ∑ number ∈ Finset.uIcc first last, weight number := by
  rw [foldl_add_eq_sum, ← toFinset_between, List.sum_toFinset _ (nodup_between first last)]

/-- What is counted cell by cell are the cells of the color in the box. -/
theorem countColor_eq_card (x₁ y₁ x₂ y₂ : Int) :
    painting.countColor shade x₁ y₁ x₂ y₂ = (painting.colored shade (box x₁ y₁ x₂ y₂)).card := by
  have column (count : Nat) (x : Int) :
      (between y₁ y₂).foldl
          (fun count y => if painting.color? x y = some shade then count + 1 else count) count =
        count + ∑ y ∈ Finset.uIcc y₁ y₂, if painting.color? x y = some shade then 1 else 0 := by
    rw [← foldl_between]
    congr 1
    funext count y
    split <;> rfl
  unfold countColor
  simp only [column]
  rw [foldl_between, Nat.zero_add, colored, Finset.card_filter, box, Finset.sum_product]

/-- Every cell that is of a color at all is of one color. -/
theorem sum_card_colored (cells : Finset (Int × Int)) :
    ∑ shade, (painting.colored shade cells).card =
      (cells.filter fun cell => (painting.color? cell.1 cell.2).isSome = true).card := by
  simp only [colored, Finset.card_filter]
  rw [Finset.sum_comm]
  apply Finset.sum_congr rfl
  intro cell _
  cases painting.color? cell.1 cell.2 <;> simp

end Colored

end Painting

/-- The number of cells of a color in the box between two corners, or zero if one of them is
off the canvas. -/
def Settings.colorCount (settings : Settings) (painting : Painting) (shade : Color)
    (x₁ y₁ x₂ y₂ : Int) : Nat :=
  if settings.inBounds x₁ y₁ ∧ settings.inBounds x₂ y₂ then
    (painting.colored shade (Painting.box x₁ y₁ x₂ y₂)).card
  else 0

namespace Settings

section

variable (settings : Settings) (painting : Painting) (shade : Color) (x₁ y₁ x₂ y₂ : Int)

theorem colorCount_swap_columns :
    settings.colorCount painting shade x₂ y₁ x₁ y₂ =
      settings.colorCount painting shade x₁ y₁ x₂ y₂ := by
  have corners : settings.inBounds x₂ y₁ ∧ settings.inBounds x₁ y₂ ↔
      settings.inBounds x₁ y₁ ∧ settings.inBounds x₂ y₂ := by
    simp only [inBounds_iff]
    omega
  simp only [colorCount, corners, Painting.box, Finset.uIcc_comm x₂ x₁]

theorem colorCount_swap_rows :
    settings.colorCount painting shade x₁ y₂ x₂ y₁ =
      settings.colorCount painting shade x₁ y₁ x₂ y₂ := by
  have corners : settings.inBounds x₁ y₂ ∧ settings.inBounds x₂ y₁ ↔
      settings.inBounds x₁ y₁ ∧ settings.inBounds x₂ y₂ := by
    simp only [inBounds_iff]
    omega
  simp only [colorCount, corners, Painting.box, Finset.uIcc_comm y₂ y₁]

theorem sum_colorCount_le :
    ∑ shade, settings.colorCount painting shade x₁ y₁ x₂ y₂ ≤ (Painting.box x₁ y₁ x₂ y₂).card := by
  unfold colorCount
  split
  · rw [Painting.sum_card_colored]
    exact Finset.card_filter_le _ _
  · simp

end

section OnCanvas

variable {settings : Settings} {x₁ y₁ x₂ y₂ : Int}
  (near : settings.inBounds x₁ y₁ = true) (far : settings.inBounds x₂ y₂ = true)
  (painting : Painting) (shade : Color)

include near far

theorem colorCount_of_inBounds :
    settings.colorCount painting shade x₁ y₁ x₂ y₂ =
      (painting.colored shade (Painting.box x₁ y₁ x₂ y₂)).card :=
  if_pos ⟨near, far⟩

theorem colorCount_cut_columns {cut : Int} (least : min x₁ x₂ ≤ cut) (most : cut < max x₁ x₂) :
    settings.colorCount painting shade x₁ y₁ x₂ y₂ =
      settings.colorCount painting shade (min x₁ x₂) y₁ cut y₂ +
        settings.colorCount painting shade (cut + 1) y₁ (max x₁ x₂) y₂ := by
  rw [inBounds_iff] at near far
  rw [colorCount_of_inBounds, colorCount_of_inBounds, colorCount_of_inBounds, Painting.box,
    Painting.uIcc_eq_union least most, Finset.union_product]
  · exact painting.card_colored_union shade
      (Finset.disjoint_product.mpr (.inl (Painting.disjoint_uIcc least most)))
  all_goals
    rw [inBounds_iff]
    omega

theorem colorCount_cut_rows {cut : Int} (least : min y₁ y₂ ≤ cut) (most : cut < max y₁ y₂) :
    settings.colorCount painting shade x₁ y₁ x₂ y₂ =
      settings.colorCount painting shade x₁ (min y₁ y₂) x₂ cut +
        settings.colorCount painting shade x₁ (cut + 1) x₂ (max y₁ y₂) := by
  rw [inBounds_iff] at near far
  rw [colorCount_of_inBounds, colorCount_of_inBounds, colorCount_of_inBounds, Painting.box,
    Painting.uIcc_eq_union least most, Finset.product_union]
  · exact painting.card_colored_union shade
      (Finset.disjoint_product.mpr (.inr (Painting.disjoint_uIcc least most)))
  all_goals
    rw [inBounds_iff]
    omega

theorem inBounds_of_mem_box {cell : Int × Int} (member : cell ∈ Painting.box x₁ y₁ x₂ y₂) :
    settings.inBounds cell.1 cell.2 = true := by
  rw [Painting.box, Finset.mem_product, Finset.mem_uIcc', Finset.mem_uIcc'] at member
  rw [inBounds_iff] at near far ⊢
  omega

end OnCanvas

/-- The colors share the whole box if it is on the canvas and each of its cells is of a color. -/
theorem sum_colorCount_eq_iff (settings : Settings) (painting : Painting) (x₁ y₁ x₂ y₂ : Int) :
    ∑ shade, settings.colorCount painting shade x₁ y₁ x₂ y₂ = (Painting.box x₁ y₁ x₂ y₂).card ↔
      ∀ cell ∈ Painting.box x₁ y₁ x₂ y₂, settings.inBounds cell.1 cell.2 = true ∧
        (painting.color? cell.1 cell.2).isSome = true := by
  by_cases inside : settings.inBounds x₁ y₁ = true ∧ settings.inBounds x₂ y₂ = true
  · obtain ⟨near, far⟩ := inside
    simp only [colorCount_of_inBounds near far]
    rw [Painting.sum_card_colored, Finset.card_filter_eq_iff]
    exact forall₂_congr fun cell member =>
      (and_iff_right (inBounds_of_mem_box near far member)).symm
  · have nothing (shade : Color) : settings.colorCount painting shade x₁ y₁ x₂ y₂ = 0 :=
      if_neg inside
    constructor
    · intro whole
      rw [Finset.sum_eq_zero fun shade _ => nothing shade, Painting.card_box] at whole
      exact absurd whole.symm (Nat.mul_ne_zero (Nat.succ_ne_zero _) (Nat.succ_ne_zero _))
    · intro whole
      have near : (x₁, y₁) ∈ Painting.box x₁ y₁ x₂ y₂ :=
        Finset.mk_mem_product Finset.left_mem_uIcc Finset.left_mem_uIcc
      have far : (x₂, y₂) ∈ Painting.box x₁ y₁ x₂ y₂ :=
        Finset.mk_mem_product Finset.right_mem_uIcc Finset.right_mem_uIcc
      exact absurd ⟨(whole _ near).1, (whole _ far).1⟩ inside

theorem colorCount_self (settings : Settings) (painting : Painting) (shade : Color) (x y : Int) :
    settings.colorCount painting shade x y x y =
      if settings.inBounds x y ∧ painting.color? x y = some shade then 1 else 0 := by
  by_cases inside : settings.inBounds x y = true
  · rw [colorCount_of_inBounds inside inside, Painting.box, Finset.uIcc_self, Finset.uIcc_self,
      Finset.singleton_product_singleton, Painting.colored, Finset.filter_singleton]
    simp only [inside, true_and]
    split <;> rfl
  · simp [colorCount, inside]

end Settings

namespace Evaluation

/-- Whether the arguments of a query come out as a color and some numbers. -/
def Supplies (view : View) (budget : Nat) (node : Node) (arguments : List Node) (shade : Color)
    (numbers : List Int) : Prop :=
  ∃ first others, arguments = first :: others ∧ color view budget node first = .ok shade ∧
    List.Forall₂ (fun argument value => number view budget argument = .ok value) others numbers

theorem evaluate_call (view : View) (budget : Nat) (query : Query) (arguments : List Node)
    (location : Location) :
    evaluate view (budget + 2) (.call (.ofText query.code) arguments location) =
      answer view (.call (.ofText query.code) arguments location) (number view budget)
        (color view budget (.call (.ofText query.code) arguments location)) query arguments := by
  rw [evaluate]
  simp [call]

section

variable {settings : Settings} {painting : Painting} {state : State} {budget : Nat} {node : Node}
  {arguments : List Node} {shade : Color}

theorem answer_colorCount {x₁ y₁ x₂ y₂ : Int}
    (supplies : Supplies ⟨settings, painting, some state⟩ budget node arguments shade
      [x₁, y₁, x₂, y₂]) :
    answer ⟨settings, painting, some state⟩ node (number ⟨settings, painting, some state⟩ budget)
        (color ⟨settings, painting, some state⟩ budget node) .colorCount arguments =
      .ok (.number (settings.colorCount painting shade x₁ y₁ x₂ y₂)) := by
  obtain ⟨first, others, rfl, isShade, numbers⟩ := supplies
  obtain _ | ⟨isX₁, _ | ⟨isY₁, _ | ⟨isX₂, _ | ⟨isY₂, _ | _⟩⟩⟩⟩ := numbers
  unfold answer
  simp only [isShade, isX₁, isY₁, isX₂, isY₂, ok_bind, View.canvas_mk,
    Painter.countColor_ofPainting, Painting.countColor_eq_card, Settings.colorCount,
    Bool.and_eq_true]
  split <;> rfl

theorem answer_isCanvasColor {vertical horizontal : Int}
    (supplies : Supplies ⟨settings, painting, some state⟩ budget node arguments shade
      [vertical, horizontal]) :
    answer ⟨settings, painting, some state⟩ node (number ⟨settings, painting, some state⟩ budget)
        (color ⟨settings, painting, some state⟩ budget node) .isCanvasColor arguments =
      .ok (.number (settings.colorCount painting shade (state.robot.x + horizontal)
        (state.robot.y + vertical) (state.robot.x + horizontal) (state.robot.y + vertical))) := by
  obtain ⟨first, others, rfl, isShade, numbers⟩ := supplies
  obtain _ | ⟨isVertical, _ | ⟨isHorizontal, _ | _⟩⟩ := numbers
  unfold answer
  simp only [isShade, isVertical, isHorizontal, ok_bind, View.robot_mk, Painter.color?_ofPainting,
    Settings.colorCount_self]
  by_cases inside : settings.inBounds (state.robot.x + horizontal) (state.robot.y + vertical) = true
  · rw [if_pos inside]
    simp only [inside, true_and, flag, decide_eq_true_eq]
    split <;> rfl
  · rw [if_neg inside, if_neg fun both => inside both.1]
    rfl

end

/-- Counting cells.  In every state, a query for the number of cells of a color comes out as
the number of cells of that color in the box between two corners, or as zero if one of the
corners is off the canvas.  Neither swapping the columns nor swapping the rows of the corners
makes a difference.  The colors together count no more cells than there are in the box, and
all of them exactly if each is on the canvas and of a color.  On the canvas, a box that is cut
into two counts as much as both of them.  A query for the color of a cell, so many rows and
columns away from the robot, comes out as the number of cells of that color in the box of
that one cell. -/
theorem queries_count (settings : Settings) (painting : Painting) (state : State) :
    let view : View := ⟨settings, painting, some state⟩
    let count := settings.colorCount painting
    let box := Painting.box
    (∀ budget arguments location shade x₁ y₁ x₂ y₂,
      let node : Node := .call (.ofText Query.colorCount.code) arguments location
      Supplies view budget node arguments shade [x₁, y₁, x₂, y₂] →
        evaluate view (budget + 2) node = .ok (.number (count shade x₁ y₁ x₂ y₂))) ∧
    (∀ budget arguments location shade vertical horizontal,
      let node : Node := .call (.ofText Query.isCanvasColor.code) arguments location
      let x := state.robot.x + horizontal
      let y := state.robot.y + vertical
      Supplies view budget node arguments shade [vertical, horizontal] →
        evaluate view (budget + 2) node = .ok (.number (count shade x y x y))) ∧
    ∀ x₁ y₁ x₂ y₂,
      (box x₁ y₁ x₂ y₂).card = ((x₂ - x₁).natAbs + 1) * ((y₂ - y₁).natAbs + 1) ∧
      ∑ shade, count shade x₁ y₁ x₂ y₂ ≤ (box x₁ y₁ x₂ y₂).card ∧
      (∑ shade, count shade x₁ y₁ x₂ y₂ = (box x₁ y₁ x₂ y₂).card ↔
        ∀ cell ∈ box x₁ y₁ x₂ y₂, settings.inBounds cell.1 cell.2 = true ∧
          (painting.color? cell.1 cell.2).isSome = true) ∧
      (∀ shade, count shade x₂ y₁ x₁ y₂ = count shade x₁ y₁ x₂ y₂ ∧
        count shade x₁ y₂ x₂ y₁ = count shade x₁ y₁ x₂ y₂) ∧
      (settings.inBounds x₁ y₁ = true → settings.inBounds x₂ y₂ = true →
        (∀ shade cut, min x₁ x₂ ≤ cut → cut < max x₁ x₂ →
          count shade x₁ y₁ x₂ y₂ =
            count shade (min x₁ x₂) y₁ cut y₂ + count shade (cut + 1) y₁ (max x₁ x₂) y₂) ∧
        ∀ shade cut, min y₁ y₂ ≤ cut → cut < max y₁ y₂ →
          count shade x₁ y₁ x₂ y₂ =
            count shade x₁ (min y₁ y₂) x₂ cut + count shade x₁ (cut + 1) x₂ (max y₁ y₂)) := by
  refine ⟨?_, ?_, fun x₁ y₁ x₂ y₂ => ⟨Painting.card_box x₁ y₁ x₂ y₂,
    settings.sum_colorCount_le painting x₁ y₁ x₂ y₂,
    settings.sum_colorCount_eq_iff painting x₁ y₁ x₂ y₂,
    fun shade => ⟨settings.colorCount_swap_columns painting shade x₁ y₁ x₂ y₂,
        settings.colorCount_swap_rows painting shade x₁ y₁ x₂ y₂⟩,
    fun near far => ⟨fun shade cut => Settings.colorCount_cut_columns near far painting shade,
      fun shade cut => Settings.colorCount_cut_rows near far painting shade⟩⟩⟩
  · intro budget arguments location shade x₁ y₁ x₂ y₂ node supplies
    exact (evaluate_call ..).trans (answer_colorCount supplies)
  · intro budget arguments location shade vertical horizontal node x y supplies
    exact (evaluate_call ..).trans (answer_isCanvasColor supplies)

/-- A canvas with two red cells and one whose text is no color. -/
def speckled : Painting :=
  { cells := [((1, 1), some "red"), ((2, 3), some " Red "), ((3, 3), some "rosy")] }

theorem speckled_queries_count :
    let settings : Settings := ⟨5, none, false, Nat.succ_pos 4⟩
    let view : View := ⟨settings, speckled, some {}⟩
    let number (value : Int) : Node := .literal Kind.number.name (some (.number value)) .nowhere
    let red : Node := .literal Kind.string.name (some (.string "RED")) .nowhere
    let count := settings.colorCount speckled
    evaluate view 5 (.call (.ofText Query.colorCount.code)
      [red, number 3, number 3, number 0, number 0] .nowhere) =
        .ok (.number (count .red 3 3 0 0)) ∧
    count .red 3 3 0 0 = 2 ∧ count .red 0 3 3 0 = 2 ∧
    count .red 0 3 1 0 + count .red 2 3 3 0 = 2 ∧
    ∑ shade, count shade 3 3 0 0 ≤ 16 ∧
    evaluate view 5 (.call (.ofText Query.isCanvasColor.code) [red, number 3, number 2]
      .nowhere) = .ok (.number (count .red 2 3 2 3)) ∧
    count .red 2 3 2 3 = 1 := by
  intro settings view number red count
  have counted : count .red 3 3 0 0 = 2 := by decide +kernel
  obtain ⟨counts, looks, boxes⟩ := queries_count settings speckled {}
  obtain ⟨card, atMost, -, swaps, cuts⟩ := boxes 3 3 0 0
  rw [card] at atMost
  have swapped : count .red 0 3 3 0 = 2 := (swaps .red).1.trans counted
  have parts := (cuts rfl rfl).1 .red 1 (by decide) (by decide)
  refine ⟨?_, counted, swapped, parts.symm.trans counted, atMost, ?_, by decide +kernel⟩
  · exact counts 3 _ _ .red 3 3 0 0 ⟨red, _, rfl, rfl, .cons rfl (.cons rfl (.cons rfl
      (.cons rfl .nil)))⟩
  · exact looks 3 _ _ .red 3 2 ⟨red, _, rfl, rfl, .cons rfl (.cons rfl .nil)⟩

end Evaluation
end PixelBrush

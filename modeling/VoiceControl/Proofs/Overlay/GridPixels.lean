import VoiceControl.Proofs.Grid.Tiling
import VoiceControl.Proofs.Overlay.Addressing

/-!
# Pixels of the grid

A number of the grid stands for the rounded centre of its cell. The centre lies inside the screen,
but halves are rounded upwards, so a centre within half a pixel of the right or the lower edge is
rounded to a pixel that the screen does not have. Few refinements lead to cells so small.

The coordinates that the program works with are rounded at every step. What it answers is compared
with the exact reading of the same grid: shown with as many rows on the same screen and narrowed
into the same cells.

* `Grid.State.exactPixel?`: the pixel of a number in exact arithmetic.
* `Coordinator.Descends`: the grid that requests see was shown and narrowed.
* `Coordinator.grid_pixels_on_screen_iff`: which numbers stand for a pixel of the screen.
-/

namespace VoiceControl

/-! ## Rounding to pixels -/

/-- A coordinate of a stretch is rounded to its end at most, and short of it exactly if it is more
than half a pixel away from it. -/
theorem Number.round_within {x : Rat} {extent : Nat} (from_ : 0 ≤ x) (until_ : x < extent) :
    ∃ z : Int, Number.round (.finite x) = .finite z ∧ 0 ≤ z ∧ z ≤ extent ∧
      (z ≤ extent - 1 ↔ x < extent - 1 / 2) := by
  have up : mkRat 1 2 = (1 / 2 : Rat) := by norm_num
  refine ⟨(x + mkRat 1 2).floor, rfl, ?_, ?_, ?_⟩ <;> rw [up]
  · rw [Rat.le_floor_iff]
    push_cast
    linarith
  · rw [← Int.lt_add_one_iff, Rat.floor_lt_iff]
    push_cast
    linarith
  · rw [Int.le_sub_one_iff, Rat.floor_lt_iff]
    push_cast
    constructor <;> intro <;> linarith

namespace Grid

/-- A centre lies inside its cell. -/
theorem covers_midpoint {r : Rect Rat} (area : r.HasArea) : r.Covers r.midpoint := by
  obtain ⟨wide, high⟩ := area
  refine ⟨⟨?_, ?_⟩, ?_, ?_⟩ <;> dsimp only [Rect.midpoint] <;> linarith

theorem covers_of_inside {r outer : Rect Rat} {p : Point Rat} (inside : r.Inside outer)
    (covers : r.Covers p) : outer.Covers p :=
  ⟨⟨inside.left.trans covers.1.1, covers.1.2.trans_le inside.right⟩,
    inside.top.trans covers.2.1, covers.2.2.trans_le inside.bottom⟩

namespace State

/-- The pixel of a numbered cell, its centre rounded. -/
def exactPixel? (s : State Rat) (n : Number) : Option (Point Number) :=
  (s.cellCenter? n).map fun center => Point.round ⟨.finite center.x, .finite center.y⟩

section Centres

variable {screen : Screen Rat} {s : State Rat} {bounds : Rect Rat} {k : Nat} {n : Number}

/-- The centres of a grid on a screen are points of the screen. -/
theorem Lies.covers_center (h : s.Lies screen bounds k) {center : Point Rat}
    (found : s.cellCenter? n = some center) : screen.rect.Covers center := by
  rw [cellCenter?_eq] at found
  obtain ⟨r, cell, rfl⟩ := Option.map_eq_some_iff.1 found
  obtain ⟨area, within⟩ := h.cell cell
  exact covers_of_inside (within.trans h.inside) (covers_midpoint area)

end Centres

end State

/-! ## Two readings of a grid -/

section Readings

variable {K L : Type}

/-- The number of rows of a grid. -/
def State.rows? (s : State K) : Option Nat := s.shape?.map (·.2)

variable {s : State K} {t : State L} {n : Number}

/-- Whether a number stands for a cell is a matter of the rows alone. -/
theorem State.isSome_locate? (s : State K) (n : Number) :
    (s.locate? n).isSome =
      match s.rows?, n.toNat? with
      | some k, some (i + 1) => decide (i < k * k)
      | _, _ => false := by
  rw [locate?, rows?]
  rcases s.shape? with _ | ⟨bounds, k⟩ <;> rcases n.toNat? with _ | _ | i <;> try rfl
  by_cases inside : i < k * k <;> simp [inside]

theorem State.isSome_locate?_congr (same : s.rows? = t.rows?) :
    (s.locate? n).isSome = (t.locate? n).isSome := by
  rw [isSome_locate?, isSome_locate?, same]

variable [NatCast K] [Add K] [Mul K] [Div K] [NatCast L] [Add L] [Mul L] [Div L]

theorem State.isSome_cellCenter?_congr (same : s.rows? = t.rows?) :
    (s.cellCenter? n).isSome = (t.cellCenter? n).isSome := by
  rw [cellCenter?, cellCenter?, Option.isSome_map, Option.isSome_map, isSome_locate?_congr same]

/-- A grid that is narrowed has three rows, however its coordinates are read. -/
theorem State.refine?_congr (same : s.rows? = t.rows?) {s' : State K}
    (narrowed : s.refine? n = some s') :
    ∃ t', t.refine? n = some t' ∧ s'.rows? = t'.rows? := by
  obtain ⟨l, located, rfl⟩ := Option.map_eq_some_iff.1 narrowed
  have found : (t.locate? n).isSome = true := by
    rw [← isSome_locate?_congr same, located]
    rfl
  obtain ⟨l', located'⟩ := Option.isSome_iff_exists.1 found
  exact ⟨_, by rw [refine?, located', Option.map_some], rfl⟩

/-- The same cells are accepted one after another, however the coordinates are read. -/
theorem descend_congr {screen : Screen K} (screen' : Screen L) {size : Nat} {cells : List Number}
    {s : State K} (narrowed : descend screen size cells = some s) :
    ∃ t, descend screen' size cells = some t ∧ s.rows? = t.rows? := by
  induction cells using List.reverseRecOn generalizing s with
  | nil =>
      obtain rfl : whole screen size = s := Option.some.inj narrowed
      exact ⟨_, rfl, rfl⟩
  | append_singleton cells n ih =>
      rw [descend_append_singleton] at narrowed ⊢
      obtain ⟨r, before, last⟩ := Option.bind_eq_some_iff.1 narrowed
      obtain ⟨r', before', same⟩ := ih before
      obtain ⟨t, last', same'⟩ := State.refine?_congr same last
      exact ⟨t, Option.bind_eq_some_iff.2 ⟨r', before', last'⟩, same'⟩

end Readings

end Grid

/-! ## The grid that requests see -/

/-- The grid that a panel's requests see is not shown, or it was shown on a screen and narrowed. -/
structure GridPanel.Descends (screen : Screen Number) (g : GridPanel) : Prop where
  covers : g.screen = screen
  shown : g.content.logical.state ≠ .unshown → ∃ size cells,
    0 < size ∧ Grid.descend screen size cells = some g.content.logical.state

namespace GridPanel

variable {screen : Screen Number} {g q : GridPanel} {s : List Signal}

theorem Descends.congr (h : g.Descends screen) (same : q.screen = g.screen)
    (logical : q.content.logical = g.content.logical) : q.Descends screen :=
  ⟨same.trans h.covers, logical ▸ h.shown⟩

theorem Descends.hide (h : g.Descends screen) : g.hide.1.Descends screen := by
  rw [hide_fst]
  exact ⟨h.covers, fun shown => absurd rfl shown⟩

theorem Descends.present (h : g.Descends screen) {options : Option Tree}
    (accepted : g.present options = .ok (q, s)) : q.Descends screen := by
  obtain ⟨size, requested, rfl⟩ := transition_of_present accepted
  have some_ : 0 < size := by
    unfold GridPanel.requested at requested
    split at requested
    · cases requested
    · obtain ⟨size', some_, -, same⟩ := Grid.show?_eq_ok_iff.1 requested
      cases same
      exact some_
  rw [transition_fst]
  exact ⟨h.covers, fun _ => ⟨size, [], some_, by rw [h.covers]; rfl⟩⟩

theorem Descends.refine (h : g.Descends screen) {cell : Number}
    (accepted : g.refine? cell = some (q, s)) : q.Descends screen := by
  obtain ⟨state, narrowed, rfl⟩ := transition_of_refine? accepted
  -- a grid that is not shown has no cell to be refined into
  have up : g.content.logical.state ≠ .unshown := by
    intro down
    rw [down, Grid.State.refine?, Grid.State.locate?_unshown] at narrowed
    cases narrowed
  obtain ⟨size, cells, some_, before⟩ := h.shown up
  rw [transition_fst]
  refine ⟨h.covers, fun _ => ⟨size, cells ++ [cell], some_, ?_⟩⟩
  rw [Grid.descend_append_singleton, before]
  exact narrowed

end GridPanel

/-- An overlay is in order if it is not the grid, or its grid was shown on a screen and narrowed. -/
def OverlayKind.Descends (screen : Screen Number) :
    (k : OverlayKind) → Panel k.Content k.Drawn → Prop
  | .grid, g => GridPanel.Descends screen g
  | _, _ => True

namespace OverlayKind

variable {screen : Screen Number} {k : OverlayKind} {p q : Panel k.Content k.Drawn}

theorem Descends.conceal (h : k.Descends screen p) : k.Descends screen (k.conceal p).1 := by
  cases k with
  | grid => exact GridPanel.Descends.hide h
  | elements | windows | help => trivial

theorem Descends.present {options : Option Tree} {s : List Signal} (h : k.Descends screen p)
    (accepted : k.present p options = .ok (q, s)) : k.Descends screen q := by
  cases k with
  | grid => exact GridPanel.Descends.present h accepted
  | elements | windows | help => trivial

theorem Descends.advance (sources : Sources) (h : k.Descends screen p) :
    k.Descends screen (p.advance k.drawing sources).panel := by
  cases k with
  | grid =>
      -- requests see nothing of what was drawn
      obtain ⟨same, content⟩ := GridPanel.advance_keeps sources p
      have logical := congrArg GridContent.logical content
      exact GridPanel.Descends.congr h same logical
  | elements | windows | help => trivial

end OverlayKind

namespace Coordinator

variable {screen : Screen Number} {c d : Coordinator} {k : OverlayKind}

/-- The grid of a coordinator was shown on a screen and narrowed. -/
structure Descends (screen : Screen Number) (c : Coordinator) : Prop where
  full : c.Full
  panels : ∀ k p, c.panel? k = some p → k.Descends screen p

theorem Descends.setPanel (h : c.Descends screen) {q : Panel k.Content k.Drawn}
    (changed : k.Descends screen q) (next : ∀ j, d.panel? j = (c.setPanel k q).panel? j) :
    d.Descends screen where
  full j := by
    rw [next]
    exact h.full.setPanel k q j
  panels j p there := by
    rw [next] at there
    exact forall_setPanel changed (fun j r _ => h.panels j r) j p there

theorem Descends.after (h : c.Descends screen) (m : Move) : (c.after m).Descends screen := by
  refine after_keeps (P := fun c => c.Descends screen) (fun h => h.full) ?_ ?_ ?_ ?_ h m
  · intro c k p there up h
    exact h.setPanel (h.panels k p there).conceal fun j => panel?_lowered ..
  · intro c k p options q s there room area accepted h
    exact h.setPanel ((h.panels k p there).present accepted) fun j => panel?_raised ..
  · intro c g q cell s there up accepted h
    exact h.setPanel (k := .grid) (GridPanel.Descends.refine (h.panels .grid g there) accepted)
      fun j => panel?_narrowed ..
  · intro c sources k h
    obtain ⟨p, there⟩ := h.full k
    refine h.setPanel ((h.panels k p there).advance sources) fun j => ?_
    rw [step_eq there, panel?_accept]

theorem descends_run (o : Outfit) (ms : List Move) :
    (o.coordinator.run ms).Descends (o.screen .grid) := by
  refine run_keeps (fun m h => h.after m) ⟨(agrees_coordinator o).full, ?_⟩ ms
  intro k p there
  cases k with
  | grid =>
      obtain rfl := Option.some.inj there
      exact ⟨rfl, fun shown => absurd rfl shown⟩
  | elements | windows | help => trivial

/-- On a screen of whole pixels, whatever was asked for and however far drawing has come: the grid
that is up was shown in some number of rows and narrowed into some cells, and its numbers are
answered and published as the rounded centres of its cells. In exact arithmetic the same grid has
the same numbers, and each stands for a point at most at the end of the screen, which is one of its
pixels exactly if the centre is more than half a pixel away from the right and the lower edge. -/
theorem grid_pixels_on_screen_iff {o : Outfit} {width height : Nat} (wide : 0 < width)
    (high : 0 < height) (covers : o.screen .grid = ⟨.finite width, .finite height⟩)
    {ms : List Move} (up : (o.coordinator.run ms).current = some .grid) :
    let c := o.coordinator.run ms
    ∃ size cells s, 0 < size ∧
      Grid.descend (⟨.finite width, .finite height⟩ : Screen Number) size cells =
        some c.gridState ∧
      Grid.descend (⟨width, height⟩ : Screen Rat) size cells = some s ∧
      (∀ n, c.ownPosition? .grid n = c.gridTarget? n ∧
        (c.table ≠ [] → c.published? n = c.gridTarget? n) ∧
        (c.gridTarget? n).isSome = (s.exactPixel? n).isSome) ∧
      ∀ n center, s.cellCenter? n = some center →
        ∃ x y : Int, s.exactPixel? n = some ⟨.finite x, .finite y⟩ ∧
          0 ≤ x ∧ x ≤ width ∧ 0 ≤ y ∧ y ≤ height ∧
          (x ≤ width - 1 ∧ y ≤ height - 1 ↔
            center.x < width - 1 / 2 ∧ center.y < height - 1 / 2) := by
  intro c
  have agrees : c.Agrees := agrees_run o ms
  obtain ⟨g, hg⟩ := agrees.full .grid
  have shown : g.content.logical.state ≠ .unshown := by
    rw [← gridState_of_panel hg]
    exact agrees.shown.2 up
  have descends : GridPanel.Descends (o.screen .grid) g := (descends_run o ms).panels .grid g hg
  obtain ⟨size, cells, some_, narrowed⟩ := descends.shown shown
  rw [← gridState_of_panel hg, covers] at narrowed
  obtain ⟨s, exact_, same⟩ := Grid.descend_congr (⟨width, height⟩ : Screen Rat) narrowed
  refine ⟨size, cells, s, some_, narrowed, exact_, fun n => ⟨agrees.ownPosition?_grid n,
    fun full => agrees.published?_eq up full n, ?_⟩, fun n center found => ?_⟩
  · rw [gridTarget?, Grid.State.exactPixel?, Option.isSome_map, Option.isSome_map]
    exact Grid.State.isSome_cellCenter?_congr same
  · obtain ⟨bounds, k, lies⟩ := Grid.lies_descend
      ⟨Nat.cast_pos.2 wide, Nat.cast_pos.2 high⟩ some_ exact_
    obtain ⟨⟨left, right⟩, top, bottom⟩ := lies.covers_center found
    simp only [Screen.rect, Nat.cast_zero, zero_add] at left right top bottom
    obtain ⟨x, hx, x_nonneg, x_le, x_inside⟩ := Number.round_within left right
    obtain ⟨y, hy, y_nonneg, y_le, y_inside⟩ := Number.round_within top bottom
    refine ⟨x, y, ?_, x_nonneg, x_le, y_nonneg, y_le, and_congr x_inside y_inside⟩
    rw [Grid.State.exactPixel?, found, Option.map_some, Point.round, hx, hy]

/-- A grid that is refined once. -/
theorem grid_pixels_on_screen_refined :
    let o : Outfit := { screen := fun _ => ⟨1920, 1080⟩ }
    let c := o.coordinator.run [.reveal .grid none, .refine 41]
    c.current = some .grid ∧
      ∃ size cells s, 0 < size ∧
        Grid.descend (⟨.finite 1920, .finite 1080⟩ : Screen Number) size cells =
          some c.gridState ∧
        Grid.descend (⟨1920, 1080⟩ : Screen Rat) size cells = some s := by
  intro o c
  have up : c.current = some .grid := by decide +kernel
  have covers : o.screen .grid = ⟨.finite (1920 : Nat), .finite (1080 : Nat)⟩ := by decide +kernel
  obtain ⟨size, cells, s, some_, narrowed, exact_, -⟩ :=
    grid_pixels_on_screen_iff (by decide) (by decide) covers up
  exact ⟨up, size, cells, s, some_, narrowed, exact_⟩

/-- A grid that is narrowed into its last cell five times and drawn: its last number is answered and
published as a point beyond the last pixel of the screen, and exact arithmetic says the same. -/
theorem grid_pixel_beyond_screen :
    let o : Outfit := { screen := fun _ => ⟨1920, 1080⟩ }
    let c := o.coordinator.run
      ([.reveal .grid (some (GridPanel.sizeOptions 9)), .refine 81, .refine 9, .refine 9, .refine 9,
        .refine 9] ++ List.replicate 24 (.advance {} .grid))
    let beyond : Option (Point Number) := some ⟨.finite 1920, .finite 1080⟩
    c.current = some .grid ∧ c.ownPosition? .grid 9 = beyond ∧ c.published? 9 = beyond ∧
      c.position? 9 = beyond ∧
      (Grid.descend (⟨1920, 1080⟩ : Screen Rat) 9
        [.finite 81, .finite 9, .finite 9, .finite 9, .finite 9]).bind
          (·.exactPixel? (.finite 9)) = beyond := by
  decide +kernel

end Coordinator

end VoiceControl

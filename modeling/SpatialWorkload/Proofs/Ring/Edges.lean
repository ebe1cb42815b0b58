import Mathlib.Algebra.BigOperators.Group.List.Basic
import Mathlib.Algebra.Order.BigOperators.Group.List
import Mathlib.Data.List.Rotate
import Mathlib.Data.List.Zip
import SpatialWorkload.Proofs.Ring.Winding

/-!
# The edges of a ring

The winding number is a sum over the directed edges of the closed ring.  Where the ring
begins does not matter to them, and the other way round it has the same edges, each the other
way round.  What every edge carries from its start to its end holds all round the ring, and
nothing can grow along every edge.  Beyond a line through a point the contributions of all
edges cancel.
-/

namespace SpatialWorkload.Ring

section

variable {α : Type}

def edges (ring : Ring α) : List (Position α × Position α) :=
  ring.zip (ring.rotate 1)

theorem edges_cons (first : Position α) (rest : Ring α) :
    edges (first :: rest) = (first :: rest).zip (rest ++ [first]) := by
  rw [edges, List.rotate_cons_succ, List.rotate_zero]

theorem map_fst_edges (ring : Ring α) : (edges ring).map Prod.fst = ring :=
  List.map_fst_zip (List.length_rotate ring 1).ge

theorem map_snd_edges (ring : Ring α) : (edges ring).map Prod.snd = ring.rotate 1 :=
  List.map_snd_zip (List.length_rotate ring 1).le

theorem edges_rotate (ring : Ring α) (places : Nat) :
    edges (ring.rotate places) = (edges ring).rotate places := by
  rw [edges, List.rotate_rotate, Nat.add_comm, ← List.rotate_rotate]
  exact (List.zipWith_rotate_distrib Prod.mk ring (ring.rotate 1) places
    (List.length_rotate ring 1).symm).symm

/-- The ring the other way round has the same edges, each the other way round. -/
theorem perm_edges_reverse (ring : Ring α) :
    (edges ring.reverse).Perm ((edges ring).map Prod.swap) := by
  cases ring with
  | nil => exact .refl _
  | cons first rest =>
      -- From the first vertex backwards the edges come in the opposite order.
      have back : edges (first :: rest.reverse) =
          ((edges (first :: rest)).map Prod.swap).reverse := by
        rw [edges_cons, edges_cons, List.zip_swap]
        refine Eq.trans ?_ (List.reverse_zipWith (by simp)).symm
        simp [List.zip]
      have turned : (first :: rest).reverse = (first :: rest.reverse).rotate 1 := by simp
      rw [turned, edges_rotate, back]
      exact (List.rotate_perm _ 1).trans (List.reverse_perm _)

theorem mem_edges_reverse {ring : Ring α} {start finish : Position α} :
    (start, finish) ∈ edges ring.reverse ↔ (finish, start) ∈ edges ring := by
  rw [(perm_edges_reverse ring).mem_iff, List.mem_map]
  constructor
  · rintro ⟨⟨first, second⟩, member, same⟩
    cases same
    exact member
  · exact fun member => ⟨_, member, rfl⟩

theorem exists_edge_from {ring : Ring α} {vertex : Position α} (member : vertex ∈ ring) :
    ∃ finish, (vertex, finish) ∈ edges ring := by
  rw [← map_fst_edges ring] at member
  obtain ⟨⟨start, finish⟩, there, rfl⟩ := List.mem_map.mp member
  exact ⟨finish, there⟩

theorem fst_mem_of_edge {ring : Ring α} {edge : Position α × Position α}
    (member : edge ∈ edges ring) : edge.1 ∈ ring := by
  rw [← map_fst_edges ring]
  exact List.mem_map_of_mem member

theorem snd_mem_of_edge {ring : Ring α} {edge : Position α × Position α}
    (member : edge ∈ edges ring) : edge.2 ∈ ring := by
  have turned : edge.2 ∈ ring.rotate 1 := by
    rw [← map_snd_edges ring]
    exact List.mem_map_of_mem member
  exact List.mem_rotate.mp turned

/-- What every edge of a path carries from its start to its end, the path carries. -/
theorem forall_of_path {holds : Position α → Prop} {start finish : Position α} {rest : Ring α}
    (along : ∀ edge ∈ (start :: rest).zip (rest ++ [finish]), holds edge.1 → holds edge.2)
    (atStart : holds start) : ∀ vertex ∈ rest, holds vertex := by
  induction rest generalizing start with
  | nil => exact fun vertex member => absurd member List.not_mem_nil
  | cons next rest ih =>
      obtain ⟨first, further⟩ := List.forall_mem_cons.mp along
      exact List.forall_mem_cons.mpr ⟨first atStart, ih further (first atStart)⟩

/-- What every edge carries from its start to its end holds all round the ring or nowhere. -/
theorem forall_of_edges {ring : Ring α} {holds : Position α → Prop}
    (along : ∀ edge ∈ edges ring, holds edge.1 → holds edge.2) {vertex : Position α}
    (member : vertex ∈ ring) (there : holds vertex) : ∀ other ∈ ring, holds other := by
  obtain ⟨before, after, rfl⟩ := List.append_of_mem member
  have turned : (before ++ vertex :: after).rotate before.length = vertex :: (after ++ before) :=
    List.rotate_append_length_eq before (vertex :: after)
  have further : ∀ other ∈ after ++ before, holds other := by
    have path : ∀ edge ∈ (vertex :: (after ++ before)).zip ((after ++ before) ++ [vertex]),
        holds edge.1 → holds edge.2 := by
      intro edge inPath
      rw [← edges_cons, ← turned, edges_rotate] at inPath
      exact along edge (List.mem_rotate.mp inPath)
    exact forall_of_path path there
  intro other somewhere
  rcases List.mem_append.mp somewhere with early | late
  · exact further other (List.mem_append_right _ early)
  · rcases List.mem_cons.mp late with rfl | later
    · exact there
    · exact further other (List.mem_append_left _ later)

/-- Over all edges a quantity sums up to the same at their starts and at their ends. -/
theorem sum_starts_eq_sum_finishes {M : Type} [AddCommMonoid M] (ring : Ring α)
    (quantity : Position α → M) :
    ((edges ring).map fun edge => quantity edge.1).sum =
      ((edges ring).map fun edge => quantity edge.2).sum := by
  have starts : (edges ring).map (fun edge => quantity edge.1) = ring.map quantity := by
    rw [← congrArg (List.map quantity) (map_fst_edges ring), List.map_map]
    rfl
  have finishes : (edges ring).map (fun edge => quantity edge.2) =
      (ring.rotate 1).map quantity := by
    rw [← congrArg (List.map quantity) (map_snd_edges ring), List.map_map]
    rfl
  rw [starts, finishes, ((List.rotate_perm ring 1).map quantity).sum_eq]

/-- No quantity grows along every edge of a ring. -/
theorem exists_edge_le {M : Type} [AddCommGroup M] [LinearOrder M] [IsOrderedAddMonoid M]
    {ring : Ring α} (nonempty : ring ≠ []) (quantity : Position α → M) :
    ∃ edge ∈ edges ring, quantity edge.2 ≤ quantity edge.1 := by
  obtain ⟨vertex, member⟩ := List.exists_mem_of_ne_nil ring nonempty
  obtain ⟨finish, edge⟩ := exists_edge_from member
  exact List.exists_le_of_sum_le (List.ne_nil_of_mem edge) _ _
    (sum_starts_eq_sum_finishes ring quantity).ge

end

section

variable {α : Type} [Scalar α] (latitude longitude : α)

theorem pathWinding_eq_sum (start finish : Position α) (rest : Ring α) :
    pathWinding latitude longitude finish start rest =
      (((start :: rest).zip (rest ++ [finish])).map fun edge =>
        crossing latitude longitude edge.1 edge.2).sum := by
  induction rest generalizing start with
  | nil => simp [pathWinding]
  | cons next rest ih =>
      rw [pathWinding, ih]
      rfl

/-- The winding number is the sum of the crossings of the edges. -/
theorem winding_eq_sum (ring : Ring α) :
    winding latitude longitude ring =
      ((edges ring).map fun edge => crossing latitude longitude edge.1 edge.2).sum := by
  cases ring with
  | nil => rfl
  | cons first rest =>
      rw [edges_cons]
      exact pathWinding_eq_sum latitude longitude first first rest

theorem winding_rotate (ring : Ring α) (places : Nat) :
    winding latitude longitude (ring.rotate places) = winding latitude longitude ring := by
  rw [winding_eq_sum, winding_eq_sum, edges_rotate]
  exact ((List.rotate_perm _ places).map _).sum_eq

end

variable {α : Type} [Field α] [LinearOrder α] [ElementaryFunctions α] {latitude longitude : α}
  {ring : Ring α}

/-- Where each edge adds a difference of potentials, a closed ring adds nothing. -/
theorem winding_eq_zero {holds : Position α → Prop} (potential : Position α → Int)
    (along : ∀ start finish, holds start → holds finish →
      crossing latitude longitude start finish = potential finish - potential start)
    (everywhere : ∀ vertex ∈ ring, holds vertex) : winding latitude longitude ring = 0 := by
  have shifted : ∀ edge ∈ edges ring,
      crossing latitude longitude edge.1 edge.2 + potential edge.1 = potential edge.2 := by
    intro edge member
    rw [along edge.1 edge.2 (everywhere _ (fst_mem_of_edge member))
      (everywhere _ (snd_mem_of_edge member))]
    omega
  have sums := congrArg List.sum (List.map_congr_left shifted)
  rw [List.sum_map_add, ← winding_eq_sum, ← sum_starts_eq_sum_finishes] at sums
  exact add_eq_right.mp sums

/-- A closed ring on one side of a line through a point does not wind round it. -/
theorem winding_eq_zero_of_beyond [IsStrictOrderedRing α] (p q : α)
    (beyond : ∀ vertex ∈ ring, IsBeyond p q latitude longitude vertex) :
    winding latitude longitude ring = 0 :=
  winding_eq_zero (height q latitude) (fun _ _ => crossing_of_beyond) beyond

end SpatialWorkload.Ring

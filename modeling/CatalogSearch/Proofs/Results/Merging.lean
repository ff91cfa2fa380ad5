import CatalogSearch.Results.Merge

/-!
# One product of each id

Merging keeps a sublist of what it is given, in which no id comes twice and no
id is lost.
-/

namespace CatalogSearch

namespace Product

/-!
## The first product of each id

The induction follows the list; the ids seen so far are general, since every
product that is kept adds its own.
-/

theorem distinctAfter_sublist (seen : List String) (products : List Product) :
    (distinctAfter seen products).Sublist products := by
  induction products generalizing seen with
  | nil => exact List.Sublist.slnil
  | cons product rest ih =>
      unfold distinctAfter
      split
      · exact List.Sublist.cons _ (ih seen)
      · exact List.Sublist.cons_cons _ (ih _)

theorem id_not_mem_of_mem_distinctAfter {seen : List String} {products : List Product}
    {product : Product} (h : product ∈ distinctAfter seen products) :
    product.id ∉ seen := by
  induction products generalizing seen with
  | nil => cases h
  | cons first rest ih =>
      unfold distinctAfter at h
      split at h
      · exact ih h
      · rename_i hfirst
        cases h with
        | head => simpa using hfirst
        | tail _ hrest =>
            intro hseen
            exact ih hrest (List.mem_cons_of_mem _ hseen)

theorem distinctAfter_ids_nodup (seen : List String) (products : List Product) :
    ((distinctAfter seen products).map (·.id)).Nodup := by
  induction products generalizing seen with
  | nil => exact List.nodup_nil
  | cons product rest ih =>
      unfold distinctAfter
      split
      · exact ih seen
      · rw [List.map_cons, List.nodup_cons]
        constructor
        · intro hmem
          rcases List.mem_map.mp hmem with ⟨other, hother, hid⟩
          apply id_not_mem_of_mem_distinctAfter hother
          rw [hid]
          exact List.mem_cons_self
        · exact ih _

theorem id_mem_distinctAfter {seen : List String} {products : List Product}
    {product : Product} (h : product ∈ products) :
    product.id ∈ seen ∨ product.id ∈ (distinctAfter seen products).map (·.id) := by
  induction products generalizing seen with
  | nil => cases h
  | cons first rest ih =>
      unfold distinctAfter
      split
      · rename_i hfirst
        cases h with
        | head => exact Or.inl (by simpa using hfirst)
        | tail _ hrest => exact ih hrest
      · cases h with
        | head => exact Or.inr (by simp)
        | tail _ hrest =>
            rcases @ih (first.id :: seen) hrest with hseen | hlater
            · rcases List.mem_cons.mp hseen with hfirst | hbefore
              · exact Or.inr (by simp [hfirst])
              · exact Or.inl hbefore
            · exact Or.inr (by simp [hlater])

theorem distinctAfter_cons_seen {seen : List String} {product : Product}
    (h : product.id ∈ seen) (rest : List Product) :
    distinctAfter seen (product :: rest) = distinctAfter seen rest := by
  rw [distinctAfter, if_pos (List.contains_iff_mem.mpr h)]

theorem distinctAfter_cons_new {seen : List String} {product : Product}
    (h : product.id ∉ seen) (rest : List Product) :
    distinctAfter seen (product :: rest) = product :: distinctAfter (product.id :: seen) rest := by
  rw [distinctAfter, if_neg fun hcontains => h (List.contains_iff_mem.mp hcontains)]

theorem distinctAfter_congr {seen other : List String}
    (h : forall id : String, id ∈ seen <-> id ∈ other) (products : List Product) :
    distinctAfter seen products = distinctAfter other products := by
  induction products generalizing seen other with
  | nil => rfl
  | cons product rest ih =>
      by_cases hseen : product.id ∈ seen
      · rw [distinctAfter_cons_seen hseen, distinctAfter_cons_seen ((h _).mp hseen)]
        exact ih h
      · rw [distinctAfter_cons_new hseen, distinctAfter_cons_new fun hother =>
          hseen ((h _).mpr hother)]
        congr 1
        apply ih
        intro id
        rw [List.mem_cons, List.mem_cons, h]

/-- The products behind others are kept as if the ids in front had been seen before. -/
theorem distinctAfter_append (seen : List String) (front back : List Product) :
    distinctAfter seen (front ++ back) =
      distinctAfter seen front ++
        distinctAfter ((distinctAfter seen front).map (·.id) ++ seen) back := by
  induction front generalizing seen with
  | nil => rfl
  | cons product rest ih =>
      rw [List.cons_append]
      by_cases hseen : product.id ∈ seen
      · rw [distinctAfter_cons_seen hseen, distinctAfter_cons_seen hseen]
        exact ih seen
      · rw [distinctAfter_cons_new hseen, distinctAfter_cons_new hseen, ih, List.cons_append]
        congr 2
        apply distinctAfter_congr
        intro id
        rw [List.map_cons, List.cons_append, List.mem_append, List.mem_cons, List.mem_cons,
          List.mem_append]
        exact or_left_comm

theorem distinct_pair {first second : Product} (h : first.id ≠ second.id) :
    distinct [first, second] = [first, second] := by
  have hnew : second.id ∉ [first.id] := fun hmem => h (List.mem_singleton.mp hmem).symm
  rw [distinct, distinctAfter_cons_new List.not_mem_nil, distinctAfter_cons_new hnew]
  rfl

/-!
## Merged sources
-/

theorem mem_of_mem_merge {sources : List (List Product)} {product : Product}
    (h : product ∈ merge sources) : exists source, source ∈ sources ∧ product ∈ source :=
  List.mem_flatten.mp ((distinctAfter_sublist [] _).subset h)

theorem merge_ids_nodup (sources : List (List Product)) :
    ((merge sources).map (·.id)).Nodup :=
  distinctAfter_ids_nodup [] _

theorem id_mem_merge {sources : List (List Product)} {source : List Product}
    {product : Product} (hsource : source ∈ sources) (h : product ∈ source) :
    product.id ∈ (merge sources).map (·.id) := by
  have hflat : product ∈ sources.flatten := List.mem_flatten.mpr ⟨source, hsource, h⟩
  rcases @id_mem_distinctAfter [] _ _ hflat with hseen | hmem
  · cases hseen
  · exact hmem

theorem merge_pair (front back : List Product) :
    merge [front, back] =
      distinct front ++ distinctAfter ((distinct front).map (·.id)) back := by
  unfold merge distinct
  rw [List.flatten_cons, List.flatten_singleton, distinctAfter_append, List.append_nil]

theorem merge_pair_nil (front : List Product) :
    merge [front, []] = distinct front := by
  rw [merge_pair, distinctAfter, List.append_nil]

end Product

end CatalogSearch

import Mathlib.Data.List.Nodup

/-!
Items in the order of their first occurrence. Loops that pass over what they have met before are
described by what they add: the items that are not known yet, each once. A list of first
occurrences is told by its members and by the places at which they come first; there is only one.
-/

namespace ImportImpact.FirstOccurrence

variable {Item : Type} [BEq Item] [LawfulBEq Item]

/-- The items that are not known, each once, in the order in which they come. -/
def fresh (known items : List Item) : List Item :=
  (items.filter fun item => !known.contains item).eraseDups

theorem mem_fresh_iff {known items : List Item} {item : Item} :
    item ∈ fresh known items ↔ item ∈ items ∧ item ∉ known := by
  simp [fresh]

theorem fresh_of_nothing_known (items : List Item) : fresh [] items = items.eraseDups := by
  have everything : (items.filter fun item => !([] : List Item).contains item) = items :=
    List.filter_eq_self.2 (by simp)
  rw [fresh, everything]

theorem fresh_cons_of_known {known : List Item} {item : Item} (member : item ∈ known)
    (rest : List Item) : fresh known (item :: rest) = fresh known rest := by
  simp [fresh, member]

theorem fresh_cons_of_new {known : List Item} {item : Item} (absent : item ∉ known)
    (rest : List Item) :
    fresh known (item :: rest) = item :: fresh (known ++ [item]) rest := by
  have same : (rest.filter fun other => !(known ++ [item]).contains other) =
      (rest.filter fun other => !known.contains other).filter fun other => !other == item := by
    rw [List.filter_filter]
    apply List.filter_congr
    intro other _
    by_cases here : other = item
    · simp [here]
    · simp [here]
  rw [fresh, fresh, same, List.filter_cons_of_pos (by simpa using absent), List.eraseDups_cons]

theorem fresh_append (known first second : List Item) :
    fresh known (first ++ second) =
      fresh known first ++ fresh (known ++ fresh known first) second := by
  induction first generalizing known with
  | nil => simp [fresh]
  | cons item rest induction =>
      by_cases member : item ∈ known
      · rw [List.cons_append, fresh_cons_of_known member, fresh_cons_of_known member, induction]
      · rw [List.cons_append, fresh_cons_of_new member, fresh_cons_of_new member, induction]
        simp

theorem erase_dups_extends {items more : List Item} (before : items <+: more) :
    items.eraseDups <+: more.eraseDups := by
  obtain ⟨rest, rfl⟩ := before
  rw [← fresh_of_nothing_known, ← fresh_of_nothing_known, fresh_append]
  exact List.prefix_append _ _

theorem fresh_nodup (known items : List Item) : (fresh known items).Nodup := by
  induction items generalizing known with
  | nil => simp [fresh]
  | cons item rest induction =>
      by_cases member : item ∈ known
      · rw [fresh_cons_of_known member]
        exact induction known
      · rw [fresh_cons_of_new member, List.nodup_cons]
        refine ⟨fun again => ?_, induction _⟩
        exact (mem_fresh_iff.1 again).2 (by simp)

theorem erase_dups_nodup (items : List Item) : items.eraseDups.Nodup := by
  rw [← fresh_of_nothing_known]
  exact fresh_nodup [] items

theorem erase_dups_perm {items others : List Item} (permuted : items.Perm others) :
    items.eraseDups.Perm others.eraseDups := by
  rw [List.perm_ext_iff_of_nodup (erase_dups_nodup items) (erase_dups_nodup others)]
  intro item
  rw [List.mem_eraseDups, List.mem_eraseDups, permuted.mem_iff]

theorem fresh_of_nodup {known items : List Item} (distinct : items.Nodup)
    (apart : ∀ item ∈ items, item ∉ known) : fresh known items = items := by
  induction items generalizing known with
  | nil => simp [fresh]
  | cons item rest induction =>
      obtain ⟨absent, distinctRest⟩ := List.nodup_cons.1 distinct
      rw [fresh_cons_of_new (apart item (by simp)), induction distinctRest]
      intro other member known
      rcases List.mem_append.1 known with before | here
      · exact apart other (by simp [member]) before
      · exact absent (List.mem_singleton.1 here ▸ member)

/-- A view that tells the items apart, as far as it sees them, keeps first occurrences. -/
theorem fresh_filter_map {Other : Type} [BEq Other] [LawfulBEq Other]
    {view : Item → Option Other} {known items : List Item}
    (apart : ∀ first ∈ known ++ items, ∀ second ∈ items, ∀ seen,
      view first = some seen → view second = some seen → first = second) :
    fresh (known.filterMap view) (items.filterMap view) = (fresh known items).filterMap view := by
  induction items generalizing known with
  | nil => simp [fresh]
  | cons item rest induction =>
      have passed : fresh (known.filterMap view) (rest.filterMap view) =
          (fresh known rest).filterMap view :=
        induction fun first member second later =>
          apart first (by grind) second (List.mem_cons_of_mem item later)
      have added : fresh ((known ++ [item]).filterMap view) (rest.filterMap view) =
          (fresh (known ++ [item]) rest).filterMap view :=
        induction fun first member second later =>
          apart first (by grind) second (List.mem_cons_of_mem item later)
      rw [List.filterMap_append] at added
      cases shown : view item with
      | none =>
          rw [List.filterMap_cons_none shown] at added ⊢
          by_cases member : item ∈ known
          · rw [passed, fresh_cons_of_known member]
          · rw [fresh_cons_of_new member, List.filterMap_cons_none shown, ← added]
            simp
      | some seen =>
          rw [List.filterMap_cons_some shown] at added ⊢
          by_cases member : item ∈ known
          · have known_seen : seen ∈ known.filterMap view :=
              List.mem_filterMap.2 ⟨item, member, shown⟩
            rw [fresh_cons_of_known member, fresh_cons_of_known known_seen, passed]
          · have absent : seen ∉ known.filterMap view := by
              intro before
              obtain ⟨other, inside, same⟩ := List.mem_filterMap.1 before
              have here := apart other (List.mem_append_left _ inside) item List.mem_cons_self seen
              exact member (here same shown ▸ inside)
            rw [fresh_cons_of_new member, fresh_cons_of_new absent,
              List.filterMap_cons_some shown, ← added]
            rfl

theorem erase_dups_filter_map {Other : Type} [BEq Other] [LawfulBEq Other]
    {view : Item → Option Other} {items : List Item}
    (apart : ∀ first ∈ items, ∀ second ∈ items, ∀ seen,
      view first = some seen → view second = some seen → first = second) :
    (items.filterMap view).eraseDups = items.eraseDups.filterMap view := by
  rw [← fresh_of_nothing_known, ← fresh_of_nothing_known]
  have kept : fresh (([] : List Item).filterMap view) (items.filterMap view) =
      (fresh [] items).filterMap view := fresh_filter_map apart
  exact kept

theorem erase_dups_filter (items : List Item) (wanted : Item → Bool) :
    (items.filter wanted).eraseDups = items.eraseDups.filter wanted := by
  rw [← List.filterMap_eq_filter]
  apply erase_dups_filter_map
  intro first _ second _ seen here there
  rw [Option.guard_eq_some_iff] at here there
  exact here.1.trans there.1.symm

theorem erase_dups_map {Other : Type} [BEq Other] [LawfulBEq Other] {view : Item → Other}
    (injective : Function.Injective view) (items : List Item) :
    (items.map view).eraseDups = items.eraseDups.map view := by
  rw [← List.filterMap_eq_map]
  apply erase_dups_filter_map
  intro first _ second _ seen here there
  exact injective (Option.some.inj (here.trans there.symm))

theorem erase_dups_of_nodup {items : List Item} (distinct : items.Nodup) :
    items.eraseDups = items := by
  rw [← fresh_of_nothing_known]
  exact fresh_of_nodup distinct (by simp)

theorem fresh_ordered (known items : List Item) :
    (fresh known items).Pairwise fun earlier later =>
      items.idxOf earlier < items.idxOf later := by
  induction items generalizing known with
  | nil => simp [fresh]
  | cons item rest induction =>
      -- What is fresh behind a known item is not this item, so it stands one place further on.
      have behind {known : List Item} (member : item ∈ known) :
          (fresh known rest).Pairwise fun earlier later =>
            (item :: rest).idxOf earlier < (item :: rest).idxOf later := by
        refine (induction known).imp_of_mem fun {earlier later} first second before => ?_
        have apart {other : Item} (kept : other ∈ fresh known rest) : item ≠ other := by
          rintro rfl
          exact (mem_fresh_iff.1 kept).2 member
        rw [List.idxOf_cons_ne rest (apart first), List.idxOf_cons_ne rest (apart second)]
        exact Nat.succ_lt_succ before
      by_cases member : item ∈ known
      · rw [fresh_cons_of_known member]
        exact behind member
      · rw [fresh_cons_of_new member, List.pairwise_cons]
        refine ⟨fun later kept => ?_, behind (by simp)⟩
        have apart : item ≠ later := by
          rintro rfl
          exact (mem_fresh_iff.1 kept).2 (by simp)
        rw [List.idxOf_cons_self, List.idxOf_cons_ne rest apart]
        exact Nat.succ_pos _

/-- The wanted items, each once, in the order in which they come first. -/
structure ListsFirst (items : List Item) (wanted : Item → Prop) (kept : List Item) : Prop where
  mem_iff : ∀ item, item ∈ kept ↔ item ∈ items ∧ wanted item
  ordered : kept.Pairwise fun earlier later => items.idxOf earlier < items.idxOf later

namespace ListsFirst

variable {items kept : List Item} {wanted : Item → Prop}

theorem of_sublist (part : kept.Sublist items.eraseDups)
    (mem_iff : ∀ item, item ∈ kept ↔ item ∈ items ∧ wanted item) :
    ListsFirst items wanted kept where
  mem_iff
  ordered := by
    rw [← fresh_of_nothing_known] at part
    exact (fresh_ordered [] items).sublist part

omit [LawfulBEq Item] in
theorem distinct (listed : ListsFirst items wanted kept) : kept.Nodup :=
  listed.ordered.imp fun before same => absurd before (by rw [same]; exact Nat.lt_irrefl _)

end ListsFirst

theorem erase_dups_lists_first (items : List Item) :
    ListsFirst items (fun _ => True) items.eraseDups :=
  .of_sublist (List.Sublist.refl _) fun item => by rw [List.mem_eraseDups, and_true]

theorem filter_lists_first (items : List Item) (wanted : Item → Bool) :
    ListsFirst items (fun item => wanted item = true) (items.eraseDups.filter wanted) :=
  .of_sublist List.filter_sublist fun item => by rw [List.mem_filter, List.mem_eraseDups]

end ImportImpact.FirstOccurrence

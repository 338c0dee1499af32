import Mathlib.Data.List.Basic

namespace RmwZenohPico.Lib.Separated

variable {α : Type} {sep : α}

theorem first_inj {x y z w : List α} (hx : sep ∉ x) (hy : sep ∉ y) (h : x ++ sep :: z = y ++ sep :: w) :
    x = y ∧ z = w := by
  induction x generalizing y with
  | nil =>
      cases y with
      | nil => exact ⟨rfl, (List.cons.inj h).2⟩
      | cons b y =>
          have hhead := (List.cons.inj h).1
          exact absurd (hhead ▸ List.mem_cons_self) hy
  | cons a x ih =>
      cases y with
      | nil =>
          have hhead := (List.cons.inj h).1
          exact absurd (hhead ▸ List.mem_cons_self) hx
      | cons b y =>
          obtain ⟨rfl, hrest⟩ := List.cons.inj h
          obtain ⟨rfl, hz⟩ := ih (fun hm => hx (List.mem_cons_of_mem _ hm))
            (fun hm => hy (List.mem_cons_of_mem _ hm)) hrest
          exact ⟨rfl, hz⟩

theorem last_inj {x y z w : List α} (hz : sep ∉ z) (hw : sep ∉ w) (h : x ++ sep :: z = y ++ sep :: w) :
    x = y ∧ z = w := by
  have hrev := congrArg List.reverse h
  simp only [List.reverse_append, List.reverse_cons, List.append_assoc, List.singleton_append] at hrev
  obtain ⟨htail, hhead⟩ := first_inj (by simpa using hz) (by simpa using hw) hrev
  exact ⟨List.reverse_injective hhead, List.reverse_injective htail⟩

theorem first_prefix {x y z w : List α} (hx : sep ∉ x) (hy : sep ∉ y) (h : x ++ sep :: z <+: y ++ sep :: w) :
    x = y ∧ z <+: w := by
  obtain ⟨rest, hrest⟩ := h
  rw [List.append_assoc, List.cons_append] at hrest
  obtain ⟨rfl, rfl⟩ := first_inj hx hy hrest
  exact ⟨rfl, List.prefix_append _ _⟩

/-- If one joined text begins another and they have as many parts, each part
begins the other one, as all parts but the last are equal. -/
theorem joined_prefix {β : Type} {f g : β → List α} {parts : List β} (hf : ∀ v ∈ parts, sep ∉ f v)
    (hg : ∀ v ∈ parts, sep ∉ g v)
    (h : [sep].intercalate (parts.map f) <+: [sep].intercalate (parts.map g)) :
    ∀ v ∈ parts, f v <+: g v := by
  induction parts with
  | nil =>
      intro v hv
      cases hv
  | cons v parts ih =>
      cases parts with
      | nil =>
          intro u hu
          obtain rfl := List.mem_singleton.mp hu
          simpa only [List.map_cons, List.map_nil, List.intercalate_singleton] using h
      | cons w parts =>
          simp only [List.map_cons, List.intercalate_cons_cons, List.append_assoc,
            List.singleton_append] at h
          obtain ⟨heq, hrest⟩ := first_prefix (hf v List.mem_cons_self) (hg v List.mem_cons_self) h
          have hparts := ih (fun u hu => hf u (List.mem_cons_of_mem _ hu))
            (fun u hu => hg u (List.mem_cons_of_mem _ hu)) hrest
          intro u hu
          rcases List.mem_cons.mp hu with rfl | hu
          · exact heq ▸ List.prefix_rfl
          · exact hparts u hu

theorem mem_intercalate {c : α} {parts : List (List α)} (h : c ∈ [sep].intercalate parts) :
    c = sep ∨ ∃ part ∈ parts, c ∈ part := by
  induction parts with
  | nil => cases h
  | cons part parts ih =>
      cases parts with
      | nil =>
          rw [List.intercalate_singleton] at h
          exact Or.inr ⟨part, List.mem_cons_self, h⟩
      | cons next parts =>
          rw [List.intercalate_cons_cons, List.append_assoc, List.mem_append, List.mem_append,
            List.mem_singleton] at h
          rcases h with h | h | h
          · exact Or.inr ⟨part, List.mem_cons_self, h⟩
          · exact Or.inl h
          · rcases ih h with hsep | ⟨p, hp, hc⟩
            · exact Or.inl hsep
            · exact Or.inr ⟨p, List.mem_cons_of_mem _ hp, hc⟩

theorem splitOn_groups [BEq α] [LawfulBEq α] {inner : α} {groups : List (List (List α))} (hne : groups ≠ [])
    (hgroups : ∀ g ∈ groups, g ≠ []) (hparts : ∀ g ∈ groups, ∀ part ∈ g, sep ∉ part ∧ inner ∉ part)
    (hsep : sep ≠ inner) :
    (([sep].intercalate (groups.map [inner].intercalate)).splitOn sep).map (·.splitOn inner) = groups := by
  have houter : ∀ text ∈ groups.map [inner].intercalate, sep ∉ text := by
    rw [List.forall_mem_map]
    intro g hg hmem
    rcases mem_intercalate hmem with heq | ⟨part, hpart, hc⟩
    · exact hsep heq
    · exact (hparts g hg part hpart).1 hc
  have hinner : ∀ g ∈ groups, ([inner].intercalate g).splitOn inner = g := by
    intro g hg
    exact List.splitOn_intercalate inner (fun part hpart => (hparts g hg part hpart).2) (hgroups g hg)
  rw [List.splitOn_intercalate sep houter (by simpa using hne), List.map_map]
  exact (List.map_congr_left hinner).trans (List.map_id' groups)

theorem splitOn_length [BEq α] [LawfulBEq α] (text : List α) :
    (text.splitOn sep).length = text.count sep + 1 := by
  induction text with
  | nil => rfl
  | cons a text ih =>
      rw [List.splitOn_cons_eq_if_modifyHead, List.count_cons]
      split
      · rw [List.length_cons, ih]
      · rw [List.length_modifyHead, ih]

theorem splitOn_take_last [BEq α] [LawfulBEq α] {front last : List α} (hlast : sep ∉ last) (n : Nat) :
    (((front ++ sep :: last).take n).splitOn sep)[front.count sep + 1]? =
      if n ≤ front.length then none else some (last.take (n - front.length - 1)) := by
  split
  · rename_i hshort
    have hcount : (front.take n).count sep ≤ front.count sep := (List.take_sublist n front).count_le sep
    rw [List.take_append_of_le_length hshort, List.getElem?_eq_none_iff, splitOn_length]
    omega
  · rename_i hlong
    obtain ⟨m, hm⟩ : ∃ m, n - front.length = m + 1 := ⟨n - front.length - 1, by omega⟩
    have hpart : sep ∉ last.take m := fun h => hlast (List.mem_of_mem_take h)
    rw [List.take_append, List.take_of_length_le (by omega), hm, List.take_succ_cons,
      List.splitOn_append_cons_self, List.splitOn_eq_singleton hpart, ← splitOn_length,
      List.getElem?_concat_length, Nat.add_sub_cancel]

end RmwZenohPico.Lib.Separated

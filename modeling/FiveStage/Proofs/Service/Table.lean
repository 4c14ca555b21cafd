import FiveStage.Service.Sessions
import Mathlib.Data.List.Sublists

/-!
# Operations on the table of sessions

What adding, replacing and erasing a session do to the identifiers in the table, in their order,
and to what is found under each of them. Replacing and erasing are one operation, `put`, which
settles what stands under an identifier afterwards, if anything.

A new identifier differs from all that were issued before, so the session that is added can be
told from the ones that are there.
-/

namespace FiveStage.Service.Sessions

variable {table : Sessions} {id other : String} {session : Session}

/-- The identifiers of the live sessions, the oldest first. -/
def ids (table : Sessions) : List String := table.entries.map (·.1)

theorem find?_eq_none_iff : table.find? id = none ↔ id ∉ table.ids :=
  Entries.find?_eq_none_iff

/-! ## Identifiers -/

theorem identifier_injective : Function.Injective identifier := by
  intro m n h
  have hrepr : m.repr = n.repr := by simpa [identifier, toString] using h
  have hdigits : Nat.toDigits 10 m = Nat.toDigits 10 n := by
    rw [← Nat.toList_repr, hrepr, Nat.toList_repr]
  rw [← Nat.ofDigitChars_toDigits (n := m) (b := 10) (by decide) (by decide), hdigits,
    Nat.ofDigitChars_toDigits (by decide) (by decide)]

/-- All identifiers that were issued, in order. -/
def issuedIds (table : Sessions) : List String := (List.range table.issued).map identifier

theorem nodup_issuedIds (table : Sessions) : table.issuedIds.Nodup :=
  List.nodup_range.map identifier_injective

theorem nextIdentifier_notMem_issuedIds (table : Sessions) :
    table.nextIdentifier ∉ table.issuedIds := by
  simp [issuedIds, nextIdentifier, identifier_injective.eq_iff]

theorem ne_nextIdentifier_of_mem (h : id ∈ table.issuedIds) : id ≠ table.nextIdentifier := by
  rintro rfl
  exact table.nextIdentifier_notMem_issuedIds h

/-! ## Replacing and erasing -/

/-- Lets the identifier of a live session stand for this session, or for none any more. -/
def put (table : Sessions) (id : String) : Option Session → Sessions
  | some session => table.update id session
  | none => table.erase id

@[simp] theorem capacity_put (table : Sessions) (id : String) (slot : Option Session) :
    (table.put id slot).capacity = table.capacity := by
  cases slot <;> rfl

@[simp] theorem issued_put (table : Sessions) (id : String) (slot : Option Session) :
    (table.put id slot).issued = table.issued := by
  cases slot <;> rfl

@[simp] theorem issuedIds_put (table : Sessions) (id : String) (slot : Option Session) :
    (table.put id slot).issuedIds = table.issuedIds := by
  rw [issuedIds, issued_put, issuedIds]

theorem ids_put (table : Sessions) (id : String) (slot : Option Session) :
    (table.put id slot).ids = if slot = none then table.ids.filter (· ≠ id) else table.ids := by
  cases slot with
  | none => exact Entries.keys_erase table.entries id
  | some session => exact keys_update table id session

theorem find?_update (table : Sessions) (id : String) (session : Session) (other : String) :
    (table.update id session).find? other =
      if other = id then (table.find? other).map fun _ => session else table.find? other := by
  simp only [update, find?]
  induction table.entries with
  | nil => simp
  | cons entry rest ih =>
      rw [List.map_cons, Entries.find?_cons, Entries.find?_cons, ih]
      by_cases hother : other = id
      · by_cases hentry : entry.1 = id <;> simp [hother, hentry]
      · by_cases hentry : entry.1 = id
        · simp [hentry, hother, Ne.symm hother]
        · simp [hentry, hother]

theorem find?_put_of_ne (h : other ≠ id) (slot : Option Session) :
    (table.put id slot).find? other = table.find? other := by
  cases slot with
  | none => exact Entries.find?_erase_of_ne h
  | some session => rw [put, find?_update, if_neg h]

theorem find?_put_self (h : table.find? id ≠ none) (slot : Option Session) :
    (table.put id slot).find? id = slot := by
  cases slot with
  | none => exact Entries.find?_erase_self table.entries id
  | some session =>
      obtain ⟨before, hbefore⟩ := Option.ne_none_iff_exists'.1 h
      rw [put, find?_update, if_pos rfl, hbefore, Option.map_some]

/-- To put back what is there changes nothing. -/
theorem put_find? (hnodup : table.ids.Nodup) (id : String) :
    table.put id (table.find? id) = table := by
  cases hfind : table.find? id with
  | none =>
      have habsent : id ∉ table.ids := find?_eq_none_iff.1 hfind
      have hentries : Entries.erase table.entries id = table.entries := by
        refine List.filter_eq_self.2 fun entry hentry => ?_
        have hne : entry.1 ≠ id := fun heq => habsent (heq ▸ List.mem_map_of_mem hentry)
        exact decide_eq_true hne
      rw [put, erase, hentries]
  | some session =>
      have hmem : (id, session) ∈ table.entries := Entries.mem_of_find? hfind
      have hentries : table.entries.map
          (fun entry => if entry.1 = id then (id, session) else entry) = table.entries := by
        conv_rhs => rw [← List.map_id table.entries]
        refine List.map_congr_left fun entry hentry => ?_
        split
        · rename_i hid
          exact List.inj_on_of_nodup_map hnodup hmem hentry hid.symm
        · rfl
      rw [put, update, hentries]

theorem forall_mem_put {P : Session → Prop} (h : ∀ entry ∈ table.entries, P entry.2)
    {slot : Option Session} (hslot : ∀ session ∈ slot, P session) :
    ∀ entry ∈ (table.put id slot).entries, P entry.2 := by
  cases slot with
  | none => exact fun entry hentry => h entry (List.mem_of_mem_filter hentry)
  | some session =>
      intro entry hentry
      obtain ⟨before, hbefore, rfl⟩ := List.mem_map.1 hentry
      split
      · exact hslot session rfl
      · exact h before hbefore

/-! ## Adding -/

/-- There is no room for another session. -/
def Full (table : Sessions) : Prop := table.ids.length = table.capacity

instance (table : Sessions) : Decidable table.Full := inferInstanceAs (Decidable (_ = _))

theorem entries_add (hlength : table.ids.length ≤ table.capacity) (hcapacity : 0 < table.capacity)
    (session : Session) :
    (table.add session).entries =
      (if table.Full then table.entries.tail else table.entries) ++
        [(table.nextIdentifier, session)] := by
  have hids : table.ids.length = table.entries.length := List.length_map _
  rw [hids] at hlength
  simp only [add, List.length_append, List.length_singleton]
  split
  · rename_i hfull
    rw [Full, hids] at hfull
    have hdrop : table.entries.length + 1 - table.capacity = 1 := by omega
    rw [hdrop, List.drop_append_of_le_length (by omega), List.drop_one]
  · rename_i hroom
    rw [Full, hids] at hroom
    have hdrop : table.entries.length + 1 - table.capacity = 0 := by omega
    rw [hdrop, List.drop_zero]

/-- The session that has to go for the next one. -/
def Oldest (table : Sessions) (id : String) : Prop := table.ids.head? = some id

instance (table : Sessions) (id : String) : Decidable (table.Oldest id) :=
  inferInstanceAs (Decidable (_ = _))

theorem notMem_tail_of_oldest (hnodup : table.ids.Nodup) (hold : table.Oldest id) :
    id ∉ table.ids.tail := by
  cases hids : table.ids with
  | nil => exact List.not_mem_nil
  | cons oldest rest =>
      rw [Oldest, hids, List.head?_cons, Option.some_inj] at hold
      rw [hids, List.nodup_cons, hold] at hnodup
      exact hnodup.1

theorem ids_add (hlength : table.ids.length ≤ table.capacity) (hcapacity : 0 < table.capacity)
    (session : Session) :
    (table.add session).ids =
      (if table.Full then table.ids.tail else table.ids) ++ [table.nextIdentifier] := by
  rw [ids, entries_add hlength hcapacity]
  split <;> simp [ids]

theorem find?_add_nextIdentifier (hlength : table.ids.length ≤ table.capacity)
    (hcapacity : 0 < table.capacity) (hfresh : table.nextIdentifier ∉ table.ids)
    (session : Session) : (table.add session).find? table.nextIdentifier = some session := by
  have hnone : Entries.find? (if table.Full then table.entries.tail else table.entries)
      table.nextIdentifier = none := by
    rw [Entries.find?_eq_none_iff]
    intro hmem
    apply hfresh
    split at hmem
    · exact List.mem_of_mem_tail (List.map_tail ▸ hmem)
    · exact hmem
  rw [find?, entries_add hlength hcapacity, Entries.find?_append, hnone, Entries.find?_cons,
    if_pos rfl, Option.none_or]

/-- What is not dropped is found as before. -/
theorem find?_add_of_kept (hlength : table.ids.length ≤ table.capacity)
    (hcapacity : 0 < table.capacity) (hid : id ≠ table.nextIdentifier)
    (hkept : ¬ (table.Full ∧ table.Oldest id)) (session : Session) :
    (table.add session).find? id = table.find? id := by
  have hrest : Entries.find? (if table.Full then table.entries.tail else table.entries) id =
      Entries.find? table.entries id := by
    split
    · rename_i hfull
      have hold : ¬ table.Oldest id := fun hold => hkept ⟨hfull, hold⟩
      cases hentries : table.entries with
      | nil => rfl
      | cons entry rest =>
          have hhead : entry.1 ≠ id := by simpa [Oldest, ids, hentries] using hold
          rw [List.tail_cons, Entries.find?_cons, if_neg hhead]
    · rfl
  rw [find?, entries_add hlength hcapacity, Entries.find?_append, hrest, Entries.find?_cons,
    if_neg hid.symm, Entries.find?_nil, Option.or_none, find?]

end FiveStage.Service.Sessions

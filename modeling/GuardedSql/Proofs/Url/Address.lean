import GuardedSql.Proofs.Text.Digits
import GuardedSql.Proofs.Text.Join
import GuardedSql.Url.Ip
import Mathlib.Data.List.Basic
import Mathlib.Data.List.TakeWhile

/-! # Numbers as hosts — IPv4 and IPv6 addresses as they are written

    An address has one written form: four decimal numbers between dots, or
    eight groups between colons of which a run of zeros may be left out.  What
    is left out can be told from what is there, because an address has eight
    groups, so two addresses that are written alike are the same. -/

namespace GuardedSql

namespace Url

/-! ## IPv4 -/

namespace Ipv4

variable {address other : Nat} {c : Char}

/-- The numbers of an address are its bytes: by induction on the numbers, each
    of which takes one byte of the room. -/
theorem lt_of_combine {room : Nat} {numbers : List Nat} (h : combine room numbers = some address) :
    address < Nat.pow 256 room := by
  induction numbers generalizing room address with
  | nil => cases room <;> cases h
  | cons first rest ih =>
      cases rest with
      | nil =>
          have hlast : (if first < Nat.pow 256 room then some first else none) = some address := by
            cases room <;> exact h
          split at hlast
          · rename_i hlt
            exact Option.some.inj hlast ▸ hlt
          · cases hlast
      | cons second rest =>
          cases room with
          | zero => cases h
          | succ room =>
              have hstep : (if 255 < first then none
                  else (combine room (second :: rest)).bind fun low =>
                    some (first * Nat.pow 256 room + low)) = some address := h
              split at hstep
              · cases hstep
              · rename_i hfirst
                obtain ⟨low, hlow, haddress⟩ := Option.bind_eq_some_iff.mp hstep
                have hbound : low < Nat.pow 256 room := ih hlow
                have hbyte : first * Nat.pow 256 room ≤ 255 * Nat.pow 256 room :=
                  Nat.mul_le_mul_right _ (Nat.not_lt.mp hfirst)
                rw [← Option.some.inj haddress]
                show _ < Nat.pow 256 room * 256
                omega

theorem lt_of_ofText? {host : Text} (h : ofText? host = some address) : address < 0x100000000 := by
  rw [ofText?] at h
  dsimp only at h
  split at h
  · cases h
  · obtain ⟨numbers, -, hcombine⟩ := Option.bind_eq_some_iff.mp h
    exact lt_of_combine hcombine

/-- The four numbers of an address as they are written. -/
def digits (address : Nat) : List Text :=
  [24, 16, 8, 0].map fun shift => Text.ofNat ((address >>> shift) % 256)

theorem isDigit_of_mem_digits {t : Text} (ht : t ∈ digits address) (hc : c ∈ t) :
    c.isDigit = true := by
  obtain ⟨shift, -, rfl⟩ := List.mem_map.mp ht
  exact Text.isDigit_of_mem_ofNat hc

@[simp] theorem splitOn_render (address : Nat) : (render address).splitOn '.' = digits address := by
  refine Text.splitOn_join (by with_unfolding_all decide) (List.cons_ne_nil _ _) ?_
  intro t ht Text.chars_dot
  exact absurd (isDigit_of_mem_digits ht Text.chars_dot) (by decide)

theorem render_ne_nil (address : Nat) : render address ≠ [] := by
  intro hnil
  have hsplit := splitOn_render address
  rw [hnil, List.splitOn_nil] at hsplit
  exact nomatch (List.cons.inj hsplit).2

/-- Addresses of thirty-two bits are told by how they are written. -/
theorem render_injective (haddress : address < 0x100000000) (hother : other < 0x100000000)
    (h : render address = render other) : address = other := by
  have hdigits : digits address = digits other := by
    rw [← splitOn_render, h, splitOn_render]
  have hbyte : ∀ shift ∈ [24, 16, 8, 0], (address >>> shift) % 256 = (other >>> shift) % 256 :=
    fun shift hshift => Text.ofNat_injective (List.map_inj_left.mp hdigits shift hshift)
  simp only [List.forall_mem_cons, Nat.shiftRight_eq_div_pow] at hbyte
  omega

/-- An address is written as a host that is meant as an address. -/
@[simp] theorem isMeant_render (address : Nat) : isMeant (render address) = true := by
  have hlast : (digits address).getLast? = some (Text.ofNat (address % 256)) := rfl
  have hne : (digits address).getLast? ≠ some [] := by
    rw [hlast]
    exact fun h => Text.ofNat_ne_nil _ (Option.some.inj h)
  have hparts : parts (render address) = digits address := by
    rw [parts, splitOn_render]
    exact if_neg hne
  have hall : (Text.ofNat (address % 256)).all Char.isDigit = true :=
    List.all_eq_true.mpr fun _ hc => Text.isDigit_of_mem_ofNat hc
  have hnonempty : (Text.ofNat (address % 256)).isEmpty = false :=
    List.isEmpty_eq_false_iff.mpr (Text.ofNat_ne_nil _)
  rw [isMeant, hparts, hlast]
  dsimp only
  rw [hall, hnonempty]
  rfl

theorem mem_render (h : c ∈ render address) : c = '.' ∨ c.isDigit = true := by
  rcases Text.mem_join h with hsep | ⟨t, ht, hc⟩
  · rw [Text.chars_dot] at hsep
    exact Or.inl (List.mem_singleton.mp hsep)
  · exact Or.inr (isDigit_of_mem_digits ht hc)

end Ipv4

/-! ## IPv6 -/

namespace Ipv6

/-- A draft has at most eight groups, and its gap stands between them. -/
structure Draft.Fits (d : Draft) : Prop where
  room : d.taken ≤ 8
  gap : ∀ before ∈ d.gap, before ≤ d.groups.length

variable {d : Draft} {groups others : List Nat}

@[simp] theorem Draft.taken_push (d : Draft) (group : Nat) :
    (d.push group).taken = d.taken + 1 := by
  rw [taken, taken, push, List.length_append, List.length_singleton, Nat.add_right_comm]

/-- A group may be added while there is room. -/
theorem Draft.Fits.push (h : d.Fits) (hroom : d.taken < 8) (group : Nat) : (d.push group).Fits where
  room := by
    rw [d.taken_push]
    exact hroom
  gap := by
    intro before hbefore
    rw [Draft.push, List.length_append]
    exact Nat.le_add_right_of_le (h.gap before hbefore)

/-- A gap may be opened while there is room, if there is none yet. -/
theorem Draft.Fits.openGap (hroom : d.taken < 8) (hgap : ¬ d.gap.isSome = true) :
    Draft.Fits { d with gap := some d.groups.length } where
  room := by
    rw [Draft.taken, if_neg hgap] at hroom
    exact hroom
  gap := by
    rintro before ⟨⟩
    exact Nat.le_refl _

/-- A draft that fits becomes eight groups. -/
theorem Draft.Fits.length_finish (h : d.Fits) (hfinish : d.finish? = some groups) :
    groups.length = 8 := by
  have hroom := h.room
  rw [finish?] at hfinish
  rw [taken] at hroom
  cases hbefore : d.gap with
  | none =>
      simp only [hbefore] at hfinish
      split at hfinish
      · rename_i hlength
        rw [← Option.some.inj hfinish, hlength]
      · exact nomatch hfinish
  | some before =>
      simp only [hbefore, Option.some.injEq] at hfinish
      have hle := h.gap before hbefore
      simp only [hbefore, Option.isSome_some, if_true] at hroom
      rw [← hfinish]
      simp only [List.length_append, List.length_take, List.length_replicate, List.length_drop]
      omega

/-- Reading keeps a draft within its room, by induction on the parts. -/
theorem Draft.Fits.readParts {parts : List Text} {read : Draft} (h : d.Fits)
    (hread : readParts d parts = some read) : read.Fits := by
  induction parts generalizing d with
  | nil =>
      rw [Ipv6.readParts] at hread
      exact Option.some.inj hread ▸ h
  | cons part rest ih =>
      unfold Ipv6.readParts at hread
      split at hread
      · rename_i heq
        exact nomatch heq
      · split at hread
        · exact Option.some.inj hread ▸ h
        · exact nomatch hread
      · rename_i heq
        obtain ⟨rfl, rfl⟩ := List.cons.inj heq
        split at hread
        · exact nomatch hread
        · rename_i hroom
          have hfree : d.taken < 8 := Nat.lt_of_not_le hroom
          split at hread
          · split at hread
            · exact nomatch hread
            · rename_i hgap
              exact ih (Draft.Fits.openGap hfree hgap) hread
          · split at hread
            · split at hread
              · split at hread
                · rename_i hlast
                  rw [← Option.some.inj hread]
                  refine (h.push hfree _).push ?_ _
                  rw [Draft.taken_push]
                  omega
                · exact nomatch hread
              · exact nomatch hread
            · split at hread
              · exact ih (h.push hfree _) hread
              · exact nomatch hread

theorem Draft.fits_start (gap : Option Nat) (hgap : ∀ before ∈ gap, before = 0) :
    Draft.Fits ⟨[], gap⟩ where
  room := by
    rw [Draft.taken, List.length_nil]
    split <;> omega
  gap := fun before hbefore => Nat.le_of_eq (hgap before hbefore)

/-- An address has eight groups. -/
theorem length_of_ofText? {t : Text} (h : ofText? t = some groups) : groups.length = 8 := by
  rw [ofText?] at h
  split at h
  · obtain ⟨draft, hdraft, hfinish⟩ := Option.bind_eq_some_iff.mp h
    have hstart := Draft.fits_start (some 0) fun before hbefore => (Option.some.inj hbefore).symm
    exact (hstart.readParts hdraft).length_finish hfinish
  · exact nomatch h
  · obtain ⟨draft, hdraft, hfinish⟩ := Option.bind_eq_some_iff.mp h
    have hstart := Draft.fits_start none fun before hbefore => nomatch hbefore
    exact (hstart.readParts hdraft).length_finish hfinish

/-! ### The written form -/

/-- The run found so far is one of zeros. -/
theorem longestZeros_le (groups : List Nat) :
    (longestZeros groups).2 ≤
      ((groups.drop (longestZeros groups).1).takeWhile (· == 0)).length := by
  rw [longestZeros]
  refine List.foldlRecOn (motive := fun best : Nat × Nat =>
    best.2 ≤ ((groups.drop best.1).takeWhile (· == 0)).length) _ _ (Nat.zero_le _) ?_
  intro best hbest start _
  dsimp only
  split
  · exact Nat.le_refl _
  · exact hbest

/-- What is left out of the written form is a run of zeros. -/
theorem split_zeros (groups : List Nat) :
    groups.take (longestZeros groups).1 ++ List.replicate (longestZeros groups).2 0 ++
      groups.drop ((longestZeros groups).1 + (longestZeros groups).2) = groups := by
  generalize hrun : longestZeros groups = run
  obtain ⟨start, length⟩ := run
  have hle := longestZeros_le groups
  rw [hrun] at hle
  have hzeros : (groups.drop start).take length = List.replicate length 0 := by
    obtain ⟨rest, hrest⟩ := List.takeWhile_prefix (l := groups.drop start) (· == 0)
    rw [← hrest, List.take_append_of_le_length hle, List.eq_replicate_iff]
    refine ⟨List.length_take_of_le hle, fun group hgroup => ?_⟩
    have hmem : group ∈ (groups.drop start).takeWhile (· == 0) := List.mem_of_mem_take hgroup
    exact eq_of_beq (List.mem_takeWhile_imp (p := (· == 0)) hmem)
  rw [← hzeros, ← List.drop_drop, List.append_assoc, List.take_append_drop,
    List.take_append_drop]

/-- The pieces of the groups between colons; of no groups, one empty piece. -/
def pieces (groups : List Nat) : List Text :=
  if groups.isEmpty then [[]] else groups.map Text.hex

theorem pieces_ne_nil (groups : List Nat) : pieces groups ≠ [] := by
  cases groups <;> exact List.cons_ne_nil _ _

theorem join_pieces (groups : List Nat) : Text.join ":" (pieces groups) = renderGroups groups := by
  cases groups with
  | nil => simp [pieces, renderGroups]
  | cons group groups => rfl

theorem mem_pieces {t : Text} {c : Char} (ht : t ∈ pieces groups) (hc : c ∈ t) :
    Text.IsHexDigit c := by
  rw [pieces] at ht
  split at ht
  · rw [List.mem_singleton.mp ht] at hc
    exact nomatch hc
  · obtain ⟨group, -, rfl⟩ := List.mem_map.mp ht
    exact Text.isHexDigit_of_mem_hex hc

theorem pieces_injective (h : pieces groups = pieces others) : groups = others := by
  cases groups with
  | nil =>
      cases others with
      | nil => rfl
      | cons other others => exact absurd (List.cons.inj h).1.symm (Text.hex_ne_nil other)
  | cons group groups =>
      cases others with
      | nil => exact absurd (List.cons.inj h).1 (Text.hex_ne_nil group)
      | cons other others =>
          exact List.map_injective_iff.mpr (fun _ _ => Text.hex_injective) h

/-- The groups before the first empty piece are told apart, by induction on
    them: a group is never empty. -/
theorem eq_of_map_hex_append {ts us : List Text}
    (h : groups.map Text.hex ++ [] :: ts = others.map Text.hex ++ [] :: us) :
    groups = others ∧ ts = us := by
  induction groups generalizing others with
  | nil =>
      cases others with
      | nil => exact ⟨rfl, (List.cons.inj h).2⟩
      | cons other others => exact absurd (List.cons.inj h).1.symm (Text.hex_ne_nil other)
  | cons group groups ih =>
      cases others with
      | nil => exact absurd (List.cons.inj h).1 (Text.hex_ne_nil group)
      | cons other others =>
          obtain ⟨hgroup, hrest⟩ := List.cons.inj h
          obtain ⟨hgroups, htail⟩ := ih hrest
          exact ⟨List.cons_eq_cons.mpr ⟨Text.hex_injective hgroup, hgroups⟩, htail⟩

/-- The pieces before a gap are the groups, and one more empty piece if there
    are none. -/
theorem pieces_append (groups : List Nat) (ts : List Text) :
    pieces groups ++ [] :: ts =
      groups.map Text.hex ++ [] :: if groups.isEmpty then [] :: ts else ts := by
  cases groups <;> rfl

/-- What stands before a gap and after it is told by the pieces. -/
theorem eq_of_pieces_append {right right' : List Nat}
    (h : pieces groups ++ [] :: pieces right = pieces others ++ [] :: pieces right') :
    groups = others ∧ right = right' := by
  rw [pieces_append, pieces_append] at h
  obtain ⟨rfl, htail⟩ := eq_of_map_hex_append h
  refine ⟨rfl, pieces_injective ?_⟩
  split at htail
  · exact (List.cons.inj htail).2
  · exact htail

/-- The pieces of an address as it is written. -/
def written (groups : List Nat) : List Text :=
  let (start, length) := longestZeros groups
  if length < 2 then pieces groups
  else pieces (groups.take start) ++ [] :: pieces (groups.drop (start + length))

theorem mem_written {t : Text} {c : Char} (ht : t ∈ written groups) (hc : c ∈ t) :
    Text.IsHexDigit c := by
  rw [written] at ht
  dsimp only at ht
  split at ht
  · exact mem_pieces ht hc
  · rcases List.mem_append.mp ht with hleft | hright
    · exact mem_pieces hleft hc
    · rcases List.mem_cons.mp hright with rfl | hright
      · exact nomatch hc
      · exact mem_pieces hright hc

/-- An address is written as its pieces between colons. -/
theorem render_eq_join (groups : List Nat) : render groups = Text.join ":" (written groups) := by
  have hgap : chars "::" = chars ":" ++ chars ":" := by with_unfolding_all decide
  rw [render, written]
  dsimp only
  split
  · rw [join_pieces]
  · rw [Text.join_append (pieces_ne_nil _) (List.cons_ne_nil _ _),
      Text.join_cons_of_ne_nil (pieces_ne_nil _), join_pieces, join_pieces, hgap]
    simp only [List.nil_append, List.append_assoc]

@[simp] theorem splitOn_render (groups : List Nat) :
    (render groups).splitOn ':' = written groups := by
  rw [render_eq_join]
  refine Text.splitOn_join Text.chars_colon ?_ ?_
  · rw [written]
    dsimp only
    split
    · exact pieces_ne_nil _
    · exact List.append_ne_nil_of_right_ne_nil _ (List.cons_ne_nil _ _)
  · intro t ht hmem
    exact Text.not_isHexDigit (by decide) (mem_written ht hmem)

/-- Only a gap leaves an empty piece. -/
theorem pieces_ne_append {ts us : List Text} (hgroups : groups ≠ []) :
    pieces groups ≠ ts ++ [] :: us := by
  intro h
  rw [pieces, if_neg (fun hempty => hgroups (List.isEmpty_iff.mp hempty))] at h
  have hmem : [] ∈ groups.map Text.hex := h ▸ List.mem_append_right _ (List.mem_cons_self ..)
  obtain ⟨group, -, hnil⟩ := List.mem_map.mp hmem
  exact Text.hex_ne_nil group hnil

/-- Addresses are told apart by their pieces: what stands around the gap fixes
    how many zeros it stands for. -/
theorem written_injective (hgroups : groups.length = 8) (hothers : others.length = 8)
    (h : written groups = written others) : groups = others := by
  have hne : groups ≠ [] := fun hnil => by rw [hnil] at hgroups; exact absurd hgroups (by decide)
  have hne' : others ≠ [] := fun hnil => by rw [hnil] at hothers; exact absurd hothers (by decide)
  have hsplit := split_zeros groups
  have hsplit' := split_zeros others
  rw [written, written] at h
  generalize longestZeros groups = run at h hsplit
  generalize longestZeros others = run' at h hsplit'
  dsimp only at h
  split at h
  · split at h
    · exact pieces_injective h
    · exact absurd h (pieces_ne_append hne)
  · split at h
    · exact absurd h.symm (pieces_ne_append hne')
    · obtain ⟨hleft, hright⟩ := eq_of_pieces_append h
      have hlength := congrArg List.length hsplit
      have hlength' := congrArg List.length hsplit'
      rw [hleft, hright] at hsplit hlength
      simp only [List.length_append, List.length_replicate, hgroups, hothers] at hlength hlength'
      have hrun : run.2 = run'.2 := by omega
      exact hsplit.symm.trans (hrun ▸ hsplit')

/-- Addresses of eight groups are told by how they are written. -/
theorem render_injective (hgroups : groups.length = 8) (hothers : others.length = 8)
    (h : render groups = render others) : groups = others := by
  refine written_injective hgroups hothers ?_
  rw [← splitOn_render, h, splitOn_render]

theorem mem_render {c : Char} (h : c ∈ render groups) : c = ':' ∨ Text.IsHexDigit c := by
  rw [render_eq_join] at h
  rcases Text.mem_join h with hsep | ⟨t, ht, hc⟩
  · rw [Text.chars_colon] at hsep
    exact Or.inl (List.mem_singleton.mp hsep)
  · exact Or.inr (mem_written ht hc)

end Ipv6

end Url

end GuardedSql

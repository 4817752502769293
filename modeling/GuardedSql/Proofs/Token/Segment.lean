import GuardedSql.Proofs.Text.Join
import GuardedSql.Proofs.Token.Accepted

/-! # Segments — a name as the list of its parts

    A segment may carry its delimiters or not, and is written with them either
    way.  What a name says is therefore the list of its parts, each without
    delimiters: `Name.render_eq_join` writes a name from its parts alone. -/

namespace GuardedSql.Name

variable {name segment : Text} {c : Char}

/-- The parts of a name: its segments without their delimiters. -/
def parts (name : Text) : List Text := (segments name).map inner

/-- A part between delimiters. -/
def enclose (part : Text) : Text := tick :: part ++ [tick]

/-- A delimited segment is what is inside, enclosed. -/
theorem eq_enclose_inner (h : isDelimited segment = true) :
    segment = enclose (inner segment) := by
  cases segment with
  | nil => exact Bool.noConfusion h
  | cons c rest =>
      have hinner : inner (c :: rest) = rest.dropLast := by
        rw [inner, if_pos h]
        rfl
      rw [isDelimited, Bool.and_eq_true, beq_iff_eq, beq_iff_eq] at h
      obtain ⟨rfl, hlast⟩ := h
      rw [enclose, hinner, List.cons_append]
      congr 1
      obtain ⟨front, rfl⟩ := List.getLast?_eq_some_iff.mp hlast
      rw [List.dropLast_concat]

theorem inner_of_not_isDelimited (h : isDelimited segment = false) :
    inner segment = segment := by
  rw [inner, h]
  rfl

/-- A segment is its part, or its part between delimiters. -/
theorem eq_inner_or_eq_enclose (segment : Text) :
    segment = inner segment ∨ segment = enclose (inner segment) := by
  cases h : isDelimited segment with
  | true => exact Or.inr (eq_enclose_inner h)
  | false => exact Or.inl (inner_of_not_isDelimited h).symm

/-- Written, a segment is its part between delimiters. -/
theorem delimit_eq_enclose (segment : Text) : delimit segment = enclose (inner segment) := by
  rw [delimit]
  split
  · rename_i h
    exact eq_enclose_inner h
  · rename_i h
    rw [inner_of_not_isDelimited (Bool.eq_false_iff.mpr h)]
    rfl

theorem mem_of_mem_inner (h : c ∈ inner segment) : c ∈ segment := by
  rw [inner] at h
  split at h
  · exact List.mem_of_mem_tail (List.dropLast_sublist _ |>.mem h)
  · exact h

theorem mem_of_mem_segments (hsegment : segment ∈ segments name) (hc : c ∈ segment) :
    c ∈ name :=
  Text.mem_of_mem_splitOn hsegment hc

/-- A name is written from its parts. -/
theorem render_eq_join (name : Text) :
    render name = Text.join "." ((parts name).map enclose) := by
  have hmap : (segments name).map delimit = (parts name).map enclose := by
    rw [parts, List.map_map]
    exact List.map_congr_left fun segment _ => delimit_eq_enclose segment
  rw [render, hmap]

/-- Every name has a part, which may be empty. -/
theorem parts_ne_nil (name : Text) : parts name ≠ [] := by
  intro h
  exact List.splitOn_ne_nil _ _ (List.map_eq_nil_iff.mp h)

/-- A name is the join of its segments. -/
@[simp] theorem join_segments (name : Text) : Text.join "." (segments name) = name :=
  Text.join_splitOn Text.chars_dot name

end GuardedSql.Name

namespace GuardedSql.Token

variable {token : Text}

/-- A part of an accepted name holds no backtick, and its characters are
    those of the name. -/
theorem Accepted.part (h : Accepted .name token) {part : Text}
    (hpart : part ∈ Name.parts token) :
    Name.tick ∉ part ∧ ∀ c ∈ part, c ∈ token := by
  obtain ⟨segment, hsegment, rfl⟩ := List.mem_map.mp hpart
  refine ⟨h.inner_tick_not_mem hsegment, ?_⟩
  intro c hc
  exact Name.mem_of_mem_segments hsegment (Name.mem_of_mem_inner hc)

end GuardedSql.Token

import GuardedSql.Proofs.Reading.Cut
import GuardedSql.Proofs.Text.Percent
import GuardedSql.Proofs.Url.Address
import GuardedSql.Url.Host

/-! # Hosts — what is read, and how it is told from what follows

    A host that was read is empty, a name, or an address, and a name is never
    one that is meant as an address.  So a host is told by its written form,
    also where a port follows: a name holds no colon, and an address that
    does stands in brackets. -/

namespace GuardedSql.Url.Host

variable {special : Bool} {host other : Host} {t : Text} {c mark : Char}

/-- The marks that a name does not hold. -/
def marks : List Char := ['/', '?', '#', '@', ':', '[', ']']

/-- A host as it is read, under a special scheme or under another. -/
inductive Valid (special : Bool) : Host → Prop
  | empty : Valid special .empty
  | domain {name : Text} (nonempty : name ≠ []) (unmarked : ∀ mark ∈ marks, mark ∉ name)
      (not_meant : special = true → Ipv4.isMeant name = false) : Valid special (.domain name)
  | ipv4 {address : Nat} (meant : special = true) (bound : address < 0x100000000) :
      Valid special (.ipv4 address)
  | ipv6 {groups : List Nat} (eight : groups.length = 8) : Valid special (.ipv6 groups)

/-! ## Reading -/

/-- What was read between brackets is an address of eight groups. -/
theorem valid_of_ofBracketed (h : ofBracketed t = .ok host) : Valid special host := by
  rw [ofBracketed] at h
  split at h
  · split at h
    · rename_i hgroups
      rw [← Except.ok.inj h]
      exact .ipv6 (Ipv6.length_of_ofText? hgroups)
    · exact nomatch h
  · exact nomatch h

theorem not_mem_of_any {q : Char → Bool} (hany : ¬ t.any q = true) (hmark : q mark = true) :
    mark ∉ t :=
  fun hmem => hany (List.any_eq_true.mpr ⟨mark, hmem, hmark⟩)

/-- A host under a special scheme is valid there, whatever the mapping of
    names. -/
theorem valid_of_ofSpecial [DomainMapping] (h : ofSpecial t = .ok host) : Valid true host := by
  rw [ofSpecial] at h
  split at h
  · exact valid_of_ofBracketed h
  · split at h
    · exact nomatch h
    · rename_i mapped _
      dsimp only at h
      generalize Text.lower mapped = name at h
      split at h
      · exact nomatch h
      · rename_i hallowed
        have hmarks : ∀ mark ∈ marks, forbiddenInDomain mark = true := by decide
        have hany : ¬ name.any forbiddenInDomain = true := fun hany =>
          hallowed (by rw [hany, Bool.true_or])
        split at h
        · exact nomatch h
        · rename_i hnonempty
          split at h
          · split at h
            · rename_i haddress
              rw [← Except.ok.inj h]
              exact .ipv4 rfl (Ipv4.lt_of_ofText? haddress)
            · exact nomatch h
          · rename_i hmeant
            rw [← Except.ok.inj h]
            refine .domain (fun hnil => hnonempty (List.isEmpty_iff.mpr hnil)) ?_
              fun _ => Bool.eq_false_iff.mpr hmeant
            exact fun mark hmark => not_mem_of_any hany (hmarks mark hmark)

/-- **A name in ASCII** stands for the same host under every mapping. -/
theorem ofSpecial_eq_of_ascii (mapping mapping' : DomainMapping)
    (h : ∀ b ∈ Text.percentBytes t, b < 0x80) : @ofSpecial mapping t = @ofSpecial mapping' t := by
  have hsame : mapping.toAscii (Text.percentBytes t) = mapping'.toAscii (Text.percentBytes t) := by
    rw [mapping.toAscii_of_ascii _ h, mapping'.toAscii_of_ascii _ h]
  simp only [ofSpecial, hsame]

/-- A host under any other scheme is valid there. -/
theorem valid_of_ofOther (h : ofOther t = .ok host) : Valid false host := by
  rw [ofOther] at h
  split at h
  · exact valid_of_ofBracketed h
  · split at h
    · exact nomatch h
    · rename_i hany
      split at h
      · rw [← Except.ok.inj h]
        exact .empty
      · rename_i hnonempty
        have hmarks : ∀ mark ∈ marks, forbiddenAsWritten mark = true ∧ mark ∉ Text.escapes := by
          decide
        rw [← Except.ok.inj h]
        refine .domain (Text.percentEncode_ne_nil fun hnil => hnonempty (List.isEmpty_iff.mpr hnil))
          ?_ fun hspecial => Bool.noConfusion hspecial
        intro mark hmark
        obtain ⟨hforbidden, hescape⟩ := hmarks mark hmark
        exact Text.not_mem_percentEncode hescape (Or.inl (not_mem_of_any hany hforbidden))

/-! ## The written form -/

/-- A host that is no address in brackets. -/
def Plain (host : Host) : Prop := ∀ groups, host ≠ .ipv6 groups

/-- Only an IPv6 address is not plain. -/
theorem plain_or_ipv6 (host : Host) : Plain host ∨ ∃ groups, host = .ipv6 groups := by
  cases host with
  | ipv6 groups => exact Or.inr ⟨groups, rfl⟩
  | empty | domain | ipv4 => exact Or.inl fun _ h => nomatch h

/-- A plain host is written without any mark. -/
theorem Valid.not_mem_render_of_plain (h : Valid special host) (hplain : Plain host)
    (hmark : mark ∈ marks) : mark ∉ host.render := by
  intro hmem
  cases h with
  | empty => exact nomatch hmem
  | domain _ unmarked _ => exact unmarked mark hmark hmem
  | ipv4 _ _ =>
      have hmarks : ∀ mark ∈ marks, mark ≠ '.' ∧ mark.isDigit = false := by decide
      obtain ⟨hdot, hdigit⟩ := hmarks mark hmark
      rcases Ipv4.mem_render hmem with heq | htrue
      · exact hdot heq
      · exact Bool.noConfusion (hdigit.symm.trans htrue)
  | ipv6 _ => exact hplain _ rfl

/-- Between brackets there is no mark but the colons. -/
theorem not_mem_render_ipv6 {groups : List Nat} (hmark : mark ∈ marks) (hcolon : mark ≠ ':') :
    mark ∉ Ipv6.render groups := by
  intro hmem
  rcases Ipv6.mem_render hmem with heq | hdigit
  · exact hcolon heq
  · exact Text.not_isHexDigit hmark hdigit

/-- A host does not hold the marks that end it, nor that of a user. -/
theorem Valid.not_mem_render (h : Valid special host) (hmark : mark ∈ ['/', '?', '#', '@']) :
    mark ∉ host.render := by
  have hmarks : ∀ mark ∈ ['/', '?', '#', '@'], mark ∈ marks ∧ mark ≠ ':' ∧ mark ∉ ['[', ']'] := by
    decide
  obtain ⟨hmark, hcolon, hbracket⟩ := hmarks mark hmark
  rcases plain_or_ipv6 host with hplain | ⟨groups, rfl⟩
  · exact h.not_mem_render_of_plain hplain hmark
  · intro hmem
    rw [render, List.cons_append, List.mem_cons, List.mem_append, List.mem_singleton] at hmem
    rcases hmem with rfl | hinner | rfl
    · exact hbracket (List.mem_cons_self ..)
    · exact not_mem_render_ipv6 hmark hcolon hinner
    · exact hbracket (List.mem_cons_of_mem _ (List.mem_cons_self ..))

/-- A name that is not meant as an address is not written like one. -/
theorem ne_render_ipv4 {name : Text} {address : Nat} (h : Ipv4.isMeant name = false) :
    name ≠ Ipv4.render address := by
  rintro rfl
  rw [Ipv4.isMeant_render] at h
  exact Bool.noConfusion h

/-- Plain hosts are told by how they are written: a name is not meant as an
    address. -/
theorem eq_of_render_eq (h : Valid special host) (h' : Valid special other)
    (hplain : Plain host) (hplain' : Plain other) (heq : host.render = other.render) :
    host = other := by
  cases h with
  | empty =>
      cases h' with
      | empty => rfl
      | domain nonempty _ _ => exact absurd heq.symm nonempty
      | ipv4 _ _ => exact absurd heq.symm (Ipv4.render_ne_nil _)
      | ipv6 _ => exact absurd rfl (hplain' _)
  | domain nonempty _ not_meant =>
      cases h' with
      | empty => exact absurd heq nonempty
      | domain _ _ _ => exact congrArg Host.domain heq
      | ipv4 meant _ => exact absurd heq (ne_render_ipv4 (not_meant meant))
      | ipv6 _ => exact absurd rfl (hplain' _)
  | ipv4 meant bound =>
      cases h' with
      | empty => exact absurd heq (Ipv4.render_ne_nil _)
      | domain _ _ not_meant => exact absurd heq.symm (ne_render_ipv4 (not_meant meant))
      | ipv4 _ bound' => exact congrArg Host.ipv4 (Ipv4.render_injective bound bound' heq)
      | ipv6 _ => exact absurd rfl (hplain' _)
  | ipv6 _ => exact absurd rfl (hplain _)

/-- A bracket begins no plain host. -/
theorem Valid.render_append_ne {r r' : Text} (h : Valid special host) (hplain : Plain host)
    (hr : ∀ c ∈ r.head?, c = ':') : host.render ++ r ≠ '[' :: r' := by
  intro heq
  cases hrender : host.render with
  | nil =>
      rw [hrender, List.nil_append] at heq
      exact absurd (hr '[' (by rw [heq]; rfl)) (by decide)
  | cons first rest =>
      rw [hrender, List.cons_append] at heq
      refine h.not_mem_render_of_plain hplain (by decide : '[' ∈ marks) ?_
      rw [hrender, (List.cons.inj heq).1]
      exact List.mem_cons_self ..

/-- **A host is told** from its text and from what follows, which begins with
    a colon if it is there. -/
theorem eq_of_render_append {r r' : Text} (h : Valid special host) (h' : Valid special other)
    (hr : ∀ c ∈ r.head?, c = ':') (hr' : ∀ c ∈ r'.head?, c = ':')
    (heq : host.render ++ r = other.render ++ r') : host = other ∧ r = r' := by
  rcases plain_or_ipv6 host with hplain | ⟨groups, rfl⟩
  · rcases plain_or_ipv6 other with hplain' | ⟨others, rfl⟩
    · have hcolon : ':' ∈ marks := by decide
      obtain ⟨hrender, hrest⟩ := eq_of_append_eq_of_class_or_end hr hr'
        (fun c hc heq => h.not_mem_render_of_plain hplain hcolon (heq ▸ hc))
        (fun c hc heq => h'.not_mem_render_of_plain hplain' hcolon (heq ▸ hc)) heq
      exact ⟨eq_of_render_eq h h' hplain hplain' hrender, hrest⟩
    · rw [render, List.cons_append, List.cons_append] at heq
      exact absurd heq (h.render_append_ne hplain hr)
  · rcases plain_or_ipv6 other with hplain' | ⟨others, rfl⟩
    · rw [render, List.cons_append, List.cons_append] at heq
      exact absurd heq.symm (h'.render_append_ne hplain' hr')
    · cases h with
      | ipv6 eight =>
          cases h' with
          | ipv6 eight' =>
              simp only [render, List.cons_append, List.append_assoc, List.nil_append,
                List.cons.injEq, true_and] at heq
              have hbracket : ']' ∈ marks := by decide
              obtain ⟨hgroups, hrest⟩ := eq_of_append_eq_of_class (p := (· = ']'))
                ⟨']', rfl, rfl⟩ ⟨']', rfl, rfl⟩
                (fun c hc heq => not_mem_render_ipv6 hbracket (by decide) (heq ▸ hc))
                (fun c hc heq => not_mem_render_ipv6 hbracket (by decide) (heq ▸ hc)) heq
              rw [Ipv6.render_injective eight eight' hgroups]
              exact ⟨rfl, (List.cons.inj hrest).2⟩

end GuardedSql.Url.Host

import GuardedSql.Proofs.Check
import GuardedSql.Proofs.Text.Parts
import GuardedSql.Proofs.Url.Host
import GuardedSql.Url.Reader

/-! # Sound addresses — what holds of every address that was read

    The parts of an address that was read do not hold the marks by which the
    address is cut, and a path without an authority does not begin like one.
    `Url.sound_of_parse` says so of every text that is an address, and
    `Url.Sound.extend` that appending to the path keeps it. -/

namespace GuardedSql.Url

open Check

variable {t : Text} {c mark : Char} {special file : Bool}

/-! ## Paths -/

namespace Path

/-- The marks that end a segment. -/
def marks : List Char := ['/', '?', '#']

/-- A segment does not hold a mark that ends it, and does not stand for the
    place where it is; the second holds of file paths only in part. -/
structure Clean (file : Bool) (segment : Text) : Prop where
  unmarked : ∀ mark ∈ marks, mark ∉ segment
  no_dot : file = false → segment ≠ ['.']

/-- A path begins with an empty segment only if that is all of it. -/
def Rooted (segments : List Text) : Prop := segments.head? = some [] → segments = [[]]

variable {set : Char → Bool} {piece segment drive after : Text} {done segments pieces : List Text}
  {last : Bool}

theorem clean_nil : Clean file [] :=
  ⟨fun _ _ => List.not_mem_nil, fun _ h => nomatch h⟩

theorem mem_of_mem_pop {s : Text} (h : s ∈ pop done) : s ∈ done := by
  rw [pop] at h
  split at h
  · split at h
    · exact h
    · exact List.mem_of_mem_dropLast h
  · exact nomatch h

/-- The segments after one more are those from before, an empty one, the name
    of a drive, or the one that is added. -/
theorem mem_addSegment {s : Text} (h : s ∈ addSegment file last done segment) :
    s ∈ done ∨ s = [] ∨ (file = true ∧ s = segment.take 1 ++ [':']) ∨
      (s = segment ∧ isSingleDot segment = false) := by
  rw [addSegment] at h
  split at h
  · split at h
    · rcases List.mem_append.mp h with hpop | hlast
      · exact Or.inl (mem_of_mem_pop hpop)
      · exact Or.inr (Or.inl (List.mem_singleton.mp hlast))
    · exact Or.inl (mem_of_mem_pop h)
  · split at h
    · split at h
      · rcases List.mem_append.mp h with hdone | hlast
        · exact Or.inl hdone
        · exact Or.inr (Or.inl (List.mem_singleton.mp hlast))
      · exact Or.inl h
    · rename_i hdot
      split at h
      · rename_i hdrive
        refine Or.inr (Or.inr (Or.inl ⟨?_, List.mem_singleton.mp h⟩))
        simp only [Bool.and_eq_true] at hdrive
        exact hdrive.1.1
      · rcases List.mem_append.mp h with hdone | hlast
        · exact Or.inl hdone
        · exact Or.inr (Or.inr (Or.inr ⟨List.mem_singleton.mp hlast, Bool.eq_false_iff.mpr hdot⟩))

/-- Adding an unmarked segment keeps all of them clean. -/
theorem addSegment_clean (hdone : ∀ s ∈ done, Clean file s)
    (hsegment : ∀ mark ∈ marks, mark ∉ segment) :
    ∀ s ∈ addSegment file last done segment, Clean file s := by
  intro s hs
  rcases mem_addSegment hs with hmem | rfl | ⟨hfile, rfl⟩ | ⟨rfl, hdot⟩
  · exact hdone s hmem
  · exact clean_nil
  · refine ⟨fun mark hmark hmem => ?_, fun hnot => Bool.noConfusion (hfile.symm.trans hnot)⟩
    rcases List.mem_append.mp hmem with htake | hcolon
    · exact hsegment mark hmark (List.mem_of_mem_take htake)
    · rw [List.mem_singleton.mp hcolon] at hmark
      exact absurd hmark (by decide)
  · refine ⟨hsegment, ?_⟩
    rintro - rfl
    exact absurd hdot (by decide)

theorem addSegment_ne_nil : addSegment file true done segment ≠ [] := by
  rw [addSegment]
  split
  · exact List.append_ne_nil_of_right_ne_nil _ (List.cons_ne_nil _ _)
  · split
    · exact List.append_ne_nil_of_right_ne_nil _ (List.cons_ne_nil _ _)
    · split
      · exact List.cons_ne_nil _ _
      · exact List.append_ne_nil_of_right_ne_nil _ (List.cons_ne_nil _ _)

/-- A drive is a letter and a colon, and what follows it comes from the
    piece. -/
theorem cutDrive?_eq_some (h : cutDrive? piece = some (drive, after)) :
    (∃ letter : Char, letter.isAlpha = true ∧ drive = [letter, ':']) ∧ ∀ c ∈ after, c ∈ piece := by
  rw [cutDrive?] at h
  split at h
  · exact nomatch h
  · rename_i letter rest hletter
    split at h
    · rename_i mark rest' hrest
      dsimp only at h
      split at h
      · rename_i hall
        simp only [Bool.and_eq_true] at hall
        obtain ⟨rfl, rfl⟩ := Prod.mk.inj (Option.some.inj h)
        refine ⟨⟨letter, hall.1.1, rfl⟩, fun c hc => ?_⟩
        have hc' : c ∈ ':' :: mark :: rest' :=
          List.mem_cons_of_mem _ (List.mem_cons_of_mem _ (List.mem_of_mem_filter hc))
        have hc'' : c ∈ letter :: rest :=
          List.mem_cons_of_mem _ ((List.dropWhile_sublist _).mem (hrest ▸ hc'))
        exact (List.dropWhile_sublist _).mem (hletter ▸ hc'')
      · exact nomatch h
    · exact nomatch h

/-- The marks of a piece are encoded or were not there. -/
theorem unmarked_encode (hpiece : ∀ mark ∈ marks, mark ∉ piece ∨ set mark = true)
    (ht : ∀ c ∈ t, c ∈ piece) : ∀ mark ∈ marks, mark ∉ Text.percentEncode set t := by
  intro mark hmark
  have hescapes : ∀ mark ∈ marks, mark ∉ Text.escapes := by decide
  refine Text.not_mem_percentEncode (hescapes mark hmark) ?_
  exact (hpiece mark hmark).imp_left fun hnot hmem => hnot (ht mark hmem)

/-- Adding a piece keeps the segments clean, if the marks in it are encoded. -/
theorem add_clean (hdone : ∀ s ∈ done, Clean file s)
    (hpiece : ∀ mark ∈ marks, mark ∉ piece ∨ set mark = true) :
    ∀ s ∈ add file last set done piece, Clean file s := by
  rw [add]
  split
  · rename_i drive after hcut
    split at hcut
    · rename_i hfile
      have hfile' : file = true := (Bool.and_eq_true _ _ ▸ hfile).1
      obtain ⟨⟨letter, halpha, rfl⟩, hafter⟩ := cutDrive?_eq_some hcut
      have hno_dot : ∀ s : Text, file = false → s ≠ ['.'] :=
        fun _ hnot => Bool.noConfusion (hfile'.symm.trans hnot)
      refine List.forall_mem_cons.mpr ⟨⟨?_, hno_dot _⟩, List.forall_mem_singleton.mpr
        ⟨unmarked_encode hpiece hafter, hno_dot _⟩⟩
      have hmarks : ∀ mark ∈ marks, mark.isAlpha = false ∧ mark ≠ ':' := by decide
      intro mark hmark hmem
      obtain ⟨hnot, hcolon⟩ := hmarks mark hmark
      rcases List.mem_cons.mp hmem with rfl | hrest
      · exact Bool.noConfusion (hnot.symm.trans halpha)
      · exact hcolon (List.mem_singleton.mp hrest)
    · exact nomatch hcut
  · exact addSegment_clean hdone
      (unmarked_encode hpiece fun c hc => List.mem_of_mem_filter hc)

theorem add_ne_nil : add file true set done piece ≠ [] := by
  rw [add]
  split
  · exact List.cons_ne_nil _ _
  · exact addSegment_ne_nil

/-- Adding pieces keeps the segments clean, if the marks in them are
    encoded. -/
theorem addAll_clean (hdone : ∀ s ∈ done, Clean file s)
    (hpieces : ∀ piece ∈ pieces, ∀ mark ∈ marks, mark ∉ piece ∨ set mark = true) :
    ∀ s ∈ addAll file set done pieces, Clean file s := by
  induction pieces generalizing done with
  | nil => exact hdone
  | cons piece rest ih =>
      obtain ⟨hpiece, hrest⟩ := List.forall_mem_cons.mp hpieces
      cases rest with
      | nil => exact add_clean hdone hpiece
      | cons next rest => exact ih (add_clean hdone hpiece) hrest

theorem addAll_ne_nil (hpieces : pieces ≠ []) : addAll file set done pieces ≠ [] := by
  induction pieces generalizing done with
  | nil => exact absurd rfl hpieces
  | cons piece rest ih =>
      cases rest with
      | nil => exact add_ne_nil
      | cons next rest => exact ih (List.cons_ne_nil _ _)

/-- The pieces of a text without `?` and `#` hold no mark, or one that is
    encoded. -/
theorem unmarked_of_mem_pieces (hpiece : piece ∈ Path.pieces special t) :
    ∀ mark ∈ marks, mark ∉ piece ∨ inPathSet mark = true := by
  have hmarks : ∀ mark ∈ marks, mark = '/' ∨ inPathSet mark = true := by decide
  intro mark hmark
  rcases hmarks mark hmark with rfl | hset
  · refine Or.inl fun hmem => ?_
    have hslash := Text.not_of_mem_splitOnP hpiece '/' hmem
    exact Bool.noConfusion hslash
  · exact Or.inr hset

theorem collapse_clean (h : ∀ s ∈ segments, Clean file s) :
    ∀ s ∈ collapse segments, Clean file s := by
  rw [collapse]
  split
  · exact List.forall_mem_singleton.mpr clean_nil
  · exact fun s hs => h s ((List.dropWhile_sublist _).mem hs)

theorem collapse_ne_nil : collapse segments ≠ [] := by
  rw [collapse]
  split
  · exact List.cons_ne_nil _ _
  · rename_i hne
    exact hne

/-! ### Appending -/

theorem dropEmptyLast_subset {s : Text} (h : s ∈ dropEmptyLast segments) : s ∈ segments := by
  rw [dropEmptyLast] at h
  split at h
  · exact List.mem_of_mem_dropLast h
  · exact h

theorem dropEmptyLast_ne_nil (h : segments ≠ []) : dropEmptyLast segments ≠ [] := by
  rw [dropEmptyLast]
  split
  · rename_i hlast
    exact List.ne_nil_of_length_pos (by rw [List.length_dropLast]; omega)
  · exact h

/-- A piece put at the end leaves the segments clean. -/
theorem push_clean (h : ∀ s ∈ segments, Clean file s) :
    ∀ s ∈ push special file segments segment, Clean file s := by
  rw [push]
  split
  · exact h
  · dsimp only
    have hmarks : ∀ mark ∈ marks, inSegmentSet special mark = true := by
      cases special <;> decide
    have hadd : ∀ s ∈ add file true (inSegmentSet special)
        (if segments = [[]] then [] else segments) segment, Clean file s := by
      refine add_clean ?_ fun mark hmark => Or.inr (hmarks mark hmark)
      split
      · exact List.forall_mem_nil _
      · exact h
    split
    · exact collapse_clean hadd
    · exact hadd

/-- A piece put at the end leaves a segment. -/
theorem push_ne_nil (h : segments ≠ []) : push special file segments segment ≠ [] := by
  rw [push]
  split
  · exact h
  · dsimp only
    split
    · exact collapse_ne_nil
    · exact add_ne_nil

theorem head?_dropLast (h : 1 < segments.length) : segments.dropLast.head? = segments.head? := by
  match segments, h with
  | _ :: _ :: _, _ => rfl

/-- A segment at the end leaves a path rooted, if no empty one is in front. -/
theorem rooted_append (h : done.head? ≠ some []) : Rooted (done ++ [segment]) := by
  cases done with
  | nil =>
      intro hhead
      rw [Option.some.inj hhead]
      rfl
  | cons first rest => exact fun hhead => absurd hhead h

theorem head?_pop_ne (h : done.head? ≠ some []) : (pop done).head? ≠ some [] := by
  rw [pop]
  split
  · split
    · exact h
    · by_cases hlength : 1 < done.length
      · rw [head?_dropLast hlength]
        exact h
      · match done, hlength with
        | [], _ => exact h
        | [_], _ => exact fun hnil => nomatch hnil
        | _ :: _ :: _, hlength => exact absurd (by simp) hlength
  · exact fun hnil => nomatch hnil

theorem addSegment_rooted (h : done.head? ≠ some []) :
    Rooted (addSegment false true done segment) := by
  rw [addSegment]
  split
  · exact rooted_append (head?_pop_ne h)
  · split
    · exact rooted_append h
    · exact rooted_append h

theorem dropEmptyLast_rooted (h : Rooted segments) : Rooted (dropEmptyLast segments) := by
  rw [dropEmptyLast]
  split
  · rename_i hlast
    intro hhead
    rw [head?_dropLast hlast.2] at hhead
    rw [h hhead] at hlast
    exact absurd hlast.2 (by decide)
  · exact h

/-- Outside of files a path stays rooted when something is appended. -/
theorem push_rooted (h : Rooted segments) : Rooted (push special false segments segment) := by
  rw [push]
  split
  · exact h
  · refine addSegment_rooted ?_
    split
    · exact fun hnil => nomatch hnil
    · rename_i hne
      exact fun hhead => hne (h hhead)

theorem foldl_push_clean {pieces : List Text} (h : ∀ s ∈ segments, Clean file s) :
    ∀ s ∈ pieces.foldl (push special file) segments, Clean file s := by
  induction pieces generalizing segments with
  | nil => exact h
  | cons piece rest ih => exact ih (push_clean h)

theorem foldl_push_ne_nil {pieces : List Text} (h : segments ≠ []) :
    pieces.foldl (push special file) segments ≠ [] := by
  induction pieces generalizing segments with
  | nil => exact h
  | cons piece rest ih => exact ih (push_ne_nil h)

theorem foldl_push_rooted {pieces : List Text} (h : Rooted segments) :
    Rooted (pieces.foldl (push special false) segments) := by
  induction pieces generalizing segments with
  | nil => exact h
  | cons piece rest ih => exact ih (push_rooted h)

end Path

/-! ## Authorities -/

/-- User and host do not hold the marks that end them. -/
structure Authority.Sound (special : Bool) (a : Authority) : Prop where
  username : ∀ mark ∈ ['/', '?', '#', '@', ':'], mark ∉ a.username
  password : ∀ mark ∈ ['/', '?', '#', '@', ':'], mark ∉ a.password
  host : a.host.Valid special

/-- An encoded name or password holds no mark of an authority. -/
theorem unmarked_userInfo (t : Text) :
    ∀ mark ∈ ['/', '?', '#', '@', ':'], mark ∉ Text.percentEncode inUserInfoSet t := by
  have hmarks : ∀ mark ∈ ['/', '?', '#', '@', ':'],
      mark ∉ Text.escapes ∧ inUserInfoSet mark = true := by decide
  intro mark hmark
  obtain ⟨hescape, hset⟩ := hmarks mark hmark
  exact Text.not_mem_percentEncode hescape (Or.inr hset)

/-- User and password hold no mark of an authority. -/
theorem unmarked_of_splitUser {username password rest : Text}
    (h : splitUser special t = .ok (username, password, rest)) :
    (∀ mark ∈ ['/', '?', '#', '@', ':'], mark ∉ username) ∧
      ∀ mark ∈ ['/', '?', '#', '@', ':'], mark ∉ password := by
  rw [splitUser] at h
  dsimp only at h
  split at h
  · obtain ⟨rfl, hrest⟩ := Prod.mk.inj (Except.ok.inj h)
    obtain ⟨rfl, -⟩ := Prod.mk.inj hrest
    exact ⟨fun _ _ => List.not_mem_nil, fun _ _ => List.not_mem_nil⟩
  · split at h
    · split at h
      · exact nomatch h
      · obtain ⟨rfl, hrest⟩ := Prod.mk.inj (Except.ok.inj h)
        obtain ⟨rfl, -⟩ := Prod.mk.inj hrest
        exact ⟨fun _ _ => List.not_mem_nil, fun _ _ => List.not_mem_nil⟩
    · obtain ⟨rfl, hrest⟩ := Prod.mk.inj (Except.ok.inj h)
      obtain ⟨rfl, -⟩ := Prod.mk.inj hrest
      exact ⟨unmarked_userInfo _, unmarked_userInfo _⟩

/-- An authority that was read is sound under its scheme. -/
theorem sound_of_readAuthority [DomainMapping] {scheme : Text} {a : Authority} {rest : Text}
    (h : readAuthority scheme t = .ok (a, rest)) : a.Sound (isSpecial scheme) := by
  rw [readAuthority] at h
  obtain ⟨⟨username, password, afterUser⟩, huser, h⟩ := bind_eq_ok.mp h
  obtain ⟨-, h⟩ := throwIf_eq_ok.mp h
  rw [ite_bind] at h
  obtain ⟨host, hhost, h⟩ := bind_eq_ok.mp h
  obtain ⟨-, h⟩ := throwIf_eq_ok.mp h
  obtain ⟨⟨port, afterPort⟩, -, h⟩ := bind_eq_ok.mp h
  obtain ⟨-, h⟩ := throwIf_eq_ok.mp h
  obtain ⟨rfl, -⟩ := Prod.mk.inj (pure_eq_ok.mp h)
  obtain ⟨husername, hpassword⟩ := unmarked_of_splitUser huser
  refine ⟨husername, hpassword, ?_⟩
  cases hspecial : isSpecial scheme with
  | true =>
      rw [if_pos hspecial] at hhost
      exact Host.valid_of_ofSpecial hhost
  | false =>
      rw [if_neg (Bool.eq_false_iff.mp hspecial)] at hhost
      exact Host.valid_of_ofOther hhost

/-! ## Addresses -/

/-- What holds of every address that was read. -/
structure Sound (u : Url) : Prop where
  scheme : ':' ∉ u.scheme
  authority : ∀ a ∈ u.authority, a.Sound (isSpecial u.scheme)
  /-- A special scheme has an authority, and a path of segments. -/
  special : isSpecial u.scheme = true → u.authority.isSome = true ∧ u.segments ≠ []
  not_apart : u.authority.isSome = true → u.setApart = false
  clean : ∀ segment ∈ u.segments, Path.Clean (isFile u.scheme) segment
  /-- A text without structure comes right after the scheme. -/
  unstructured : ∀ text, u.path = .unstructured text →
    u.authority = none ∧ u.setApart = false ∧ text.head? ≠ some '/'
  /-- Without an authority there is a segment, and a path that would begin
      like an authority is set apart. -/
  rooted : u.authority = none → ∀ list, u.path = .segments list →
    list ≠ [] ∧ (u.setApart = false → Path.Rooted list)

variable {scheme : Text} {authority : Option Authority} {path : PathKind} {u : Url}

theorem assemble_eq (scheme : Text) (authority : Option Authority) (path : PathKind) (t : Text) :
    assemble scheme authority path t =
      ⟨scheme, authority, path, authority.isNone && match path with
        | .segments ([] :: _ :: _) => true
        | _ => false, (readTail (isSpecial scheme) t).1, (readTail (isSpecial scheme) t).2⟩ := rfl

/-- An address made of sound parts is sound. -/
theorem sound_assemble (hscheme : ':' ∉ scheme)
    (hauthority : ∀ a ∈ authority, a.Sound (isSpecial scheme))
    (hspecial : isSpecial scheme = true → authority.isSome = true)
    (hpath : (∃ list, path = .segments list ∧ (∀ s ∈ list, Path.Clean (isFile scheme) s) ∧
        (isSpecial scheme = true ∨ authority = none → list ≠ [])) ∨
      ∃ text, path = .unstructured text ∧ isSpecial scheme = false ∧ authority = none ∧
        text.head? ≠ some '/') :
    (assemble scheme authority path t).Sound := by
  rw [assemble_eq]
  refine ⟨hscheme, hauthority, ?_, ?_, ?_, ?_, ?_⟩
  · intro htrue
    refine ⟨hspecial htrue, ?_⟩
    rcases hpath with ⟨list, rfl, -, hne⟩ | ⟨text, -, hfalse, -⟩
    · exact hne (Or.inl htrue)
    · exact Bool.noConfusion (hfalse.symm.trans htrue)
  · intro hsome
    obtain ⟨a, rfl⟩ := Option.isSome_iff_exists.mp hsome
    rfl
  · rcases hpath with ⟨list, rfl, hclean, -⟩ | ⟨text, rfl, -⟩
    · exact hclean
    · exact List.forall_mem_nil _
  · rintro text rfl
    rcases hpath with ⟨list, hlist, -⟩ | ⟨text', htext, -, hnone, hhead⟩
    · exact nomatch hlist
    · rw [PathKind.unstructured.inj htext]
      exact ⟨hnone, Bool.and_false _, hhead⟩
  · rintro hnone list rfl
    rcases hpath with ⟨list', hlist, -, hne⟩ | ⟨text, htext, -⟩
    · obtain rfl := PathKind.segments.inj hlist
      refine ⟨hne (Or.inr hnone), ?_⟩
      dsimp only at hnone ⊢
      rw [hnone]
      match list with
      | [] => exact fun _ hhead => nomatch hhead
      | [first] => exact fun _ hhead => congrArg (fun s => [s]) (Option.some.inj hhead)
      | [] :: _ :: _ => exact fun happart => Bool.noConfusion happart
      | (_ :: _) :: _ :: _ => exact fun _ hhead => nomatch hhead
    · exact nomatch htext

/-- The segments of a path that was read are clean. -/
theorem readPath_clean (special : Bool) (t : Text) :
    ∀ s ∈ readPath special t, Path.Clean false s := by
  rw [readPath]
  split
  · split
    · exact List.forall_mem_singleton.mpr Path.clean_nil
    · exact List.forall_mem_nil _
  · dsimp only
    exact Path.addAll_clean (List.forall_mem_nil _) fun piece => Path.unmarked_of_mem_pieces

theorem pieces_ne_nil (special : Bool) (t : Text) : Path.pieces special t ≠ [] :=
  List.splitOnP_ne_nil _ t

/-- Under a special scheme, or behind a slash, a path has a segment. -/
theorem readPath_ne_nil (h : special = true ∨ t.head? = some '/') : readPath special t ≠ [] := by
  rw [readPath]
  split
  · rename_i hnil
    rcases h with rfl | hhead
    · exact List.cons_ne_nil _ _
    · obtain ⟨rest, rfl⟩ := List.head?_eq_some_iff.mp hhead
      exact nomatch hnil
  · exact Path.addAll_ne_nil (pieces_ne_nil _ _)

/-- An address that was read with an authority is sound, if it is no file. -/
theorem sound_of_readHierarchical [DomainMapping] (hscheme : ':' ∉ scheme)
    (hfile : isFile scheme = false) (h : readHierarchical scheme t = .ok u) : u.Sound := by
  obtain ⟨⟨a, rest⟩, ha, hassemble⟩ := bind_eq_ok.mp h
  rw [← pure_eq_ok.mp hassemble]
  refine sound_assemble hscheme ?_ (fun _ => rfl) (Or.inl ⟨_, rfl, ?_, ?_⟩)
  · rintro _ ⟨⟩
    exact sound_of_readAuthority ha
  · rw [hfile]
    exact readPath_clean _ _
  · rintro (hspecial | hnone)
    · exact readPath_ne_nil (Or.inl hspecial)
    · exact nomatch hnone

/-- The host of a file address is valid under a special scheme. -/
theorem valid_of_readFileHost [DomainMapping] {host : Host} {rest : Text}
    (h : readFileHost t = .ok (host, rest)) : host.Valid true := by
  rw [readFileHost] at h
  dsimp only at h
  split at h
  · rw [← (Prod.mk.inj (Except.ok.inj h)).1]
    exact .empty
  · obtain ⟨written, hwritten, h⟩ := bind_eq_ok.mp h
    split at h
    · rw [← (Prod.mk.inj (pure_eq_ok.mp h)).1]
      exact .empty
    · rw [← (Prod.mk.inj (pure_eq_ok.mp h)).1]
      exact Host.valid_of_ofSpecial hwritten

theorem valid_of_splitFile [DomainMapping] {host : Host} {rest : Text}
    (h : splitFile t = .ok (host, rest)) :
    host.Valid true := by
  rw [splitFile] at h
  split at h
  · rw [← (Prod.mk.inj (Except.ok.inj h)).1]
    exact .empty
  · split at h
    · rw [← (Prod.mk.inj (Except.ok.inj h)).1]
      exact .empty
    · exact valid_of_readFileHost h

/-- A file address that was read is sound. -/
theorem sound_of_readFile [DomainMapping] (h : readFile t = .ok u) : u.Sound := by
  have hfile : isFile (chars "file") = true := beq_self_eq_true _
  have hspecial : isSpecial (chars "file") = true := by rw [isSpecial, hfile, Bool.true_or]
  have hscheme : ':' ∉ chars "file" := by with_unfolding_all decide
  rw [readFile] at h
  obtain ⟨⟨host, rest⟩, hhost, hassemble⟩ := bind_eq_ok.mp h
  have hvalid := valid_of_splitFile hhost
  dsimp only at hassemble
  rw [← pure_eq_ok.mp hassemble]
  refine sound_assemble hscheme ?_ (fun _ => rfl) (Or.inl ⟨_, rfl, ?_, ?_⟩)
  · rintro _ ⟨⟩
    refine ⟨fun _ _ => List.not_mem_nil, fun _ _ => List.not_mem_nil, ?_⟩
    rw [hspecial]
    dsimp only
    split
    · exact .empty
    · exact hvalid
  · rw [hfile]
    exact Path.collapse_clean (Path.addAll_clean (List.forall_mem_nil _)
      fun piece => Path.unmarked_of_mem_pieces)
  · exact fun _ => Path.collapse_ne_nil

/-- A scheme ends at the first colon. -/
theorem not_mem_of_scheme? {rest : Text} (h : scheme? t = some (scheme, rest)) : ':' ∉ scheme := by
  cases t with
  | nil => exact nomatch h
  | cons first others =>
      rw [scheme?] at h
      split at h
      · split at h
        · rw [← (Prod.mk.inj (Option.some.inj h)).1]
          refine Text.not_mem_lower (by decide) fun hmem => ?_
          have hcolon : isSchemeChar ':' = true := List.mem_takeWhile_imp hmem
          exact Bool.noConfusion hcolon
        · exact nomatch h
      · exact nomatch h

/-- **What was read is sound.** -/
theorem sound_of_parse [DomainMapping] (h : parse t = .ok u) : u.Sound := by
  rw [parse] at h
  split at h
  · exact nomatch h
  · rename_i scheme rest hparts
    have hscheme := not_mem_of_scheme? hparts
    split at h
    · exact sound_of_readFile h
    · rename_i hfile
      have hfile : isFile scheme = false := Bool.eq_false_iff.mpr hfile
      split at h
      · exact sound_of_readHierarchical hscheme hfile h
      · rename_i hspecial
        have hother : isSpecial scheme = false := Bool.eq_false_iff.mpr hspecial
        have hno_special : isSpecial scheme = true → (none : Option Authority).isSome = true :=
          fun htrue => absurd htrue hspecial
        split at h
        · exact sound_of_readHierarchical hscheme hfile h
        · rw [← Except.ok.inj h]
          refine sound_assemble hscheme (fun _ hnone => nomatch hnone) hno_special
            (Or.inl ⟨_, rfl, ?_, fun _ => readPath_ne_nil (Or.inr rfl)⟩)
          rw [hfile]
          exact readPath_clean _ _
        · rename_i hslash
          rw [← Except.ok.inj h]
          refine sound_assemble hscheme (fun _ hnone => nomatch hnone) hno_special
            (Or.inr ⟨_, rfl, hother, rfl, fun hhead => ?_⟩)
          have htake := Text.head?_of_percentEncode (by decide) hhead
          obtain ⟨after, hafter⟩ := List.head?_eq_some_iff.mp htake
          obtain ⟨others, hrest⟩ := List.takeWhile_prefix (l := rest) fun c => !endsPath c
          rw [hafter, List.cons_append] at hrest
          exact hslash _ hrest.symm

/-- A file path does not keep empty segments at its start. -/
theorem Path.rooted_collapse {segments : List Text} : Path.Rooted (Path.collapse segments) := by
  rw [Path.collapse]
  split
  · exact fun _ => rfl
  · rename_i hne
    intro hhead
    obtain ⟨rest, hrest⟩ := List.head?_eq_some_iff.mp hhead
    have hfirst := List.head_dropWhile_not List.isEmpty hne
    simp only [hrest, List.head_cons, List.isEmpty_nil] at hfirst
    exact Bool.noConfusion hfirst

/-- The path of a file address that was read is rooted. -/
theorem rooted_of_readFile [DomainMapping] (h : readFile t = .ok u) : Path.Rooted u.segments := by
  rw [readFile] at h
  obtain ⟨⟨host, rest⟩, -, hassemble⟩ := bind_eq_ok.mp h
  rw [← pure_eq_ok.mp hassemble]
  exact Path.rooted_collapse

/-- An address has the scheme that it was read with. -/
theorem scheme_of_readHierarchical [DomainMapping] (h : readHierarchical scheme t = .ok u) :
    u.scheme = scheme := by
  obtain ⟨⟨a, rest⟩, -, hassemble⟩ := bind_eq_ok.mp h
  rw [← pure_eq_ok.mp hassemble]
  rfl

/-- The path of a file that was read begins with an empty segment only if
    that is all of it. -/
theorem rooted_of_parse [DomainMapping] (h : parse t = .ok u) (hfile : isFile u.scheme = true) :
    Path.Rooted u.segments := by
  rw [parse] at h
  split at h
  · exact nomatch h
  · rename_i scheme rest hparts
    split at h
    · exact rooted_of_readFile h
    · rename_i hnot
      have hscheme : u.scheme = scheme := by
        split at h
        · exact scheme_of_readHierarchical h
        · split at h
          · exact scheme_of_readHierarchical h
          · rw [← Except.ok.inj h]
            rfl
          · rw [← Except.ok.inj h]
            rfl
      exact absurd (hscheme ▸ hfile) hnot

/-- A file has an authority. -/
theorem Sound.isFile_eq_false (h : u.Sound) (hnone : u.authority = none) :
    isFile u.scheme = false := by
  refine Bool.eq_false_iff.mpr fun hfile => ?_
  have hspecial : isSpecial u.scheme = true := by rw [isSpecial, hfile, Bool.true_or]
  exact Bool.noConfusion (hnone ▸ (h.special hspecial).1)

/-- Appending to the path keeps an address sound. -/
theorem Sound.extend (h : u.Sound) (pieces : List Text) : (u.extend pieces).Sound := by
  rw [Url.extend]
  split
  · rename_i list hpath
    have hclean : ∀ s ∈ list, Path.Clean (isFile u.scheme) s := by
      have hall := h.clean
      rwa [segments, hpath] at hall
    have hne : isSpecial u.scheme = true ∨ u.authority = none → list ≠ [] := by
      rintro (hspecial | hnone)
      · have hall := (h.special hspecial).2
        rwa [segments, hpath] at hall
      · exact (h.rooted hnone list hpath).1
    refine ⟨h.scheme, h.authority, ?_, h.not_apart, ?_, ?_, ?_⟩
    · intro hspecial
      refine ⟨(h.special hspecial).1, ?_⟩
      exact Path.foldl_push_ne_nil (Path.dropEmptyLast_ne_nil (hne (Or.inl hspecial)))
    · exact Path.foldl_push_clean fun s hs => hclean s (Path.dropEmptyLast_subset hs)
    · exact fun _ htext => nomatch htext
    · rintro hnone _ ⟨⟩
      refine ⟨Path.foldl_push_ne_nil (Path.dropEmptyLast_ne_nil (hne (Or.inr hnone))), ?_⟩
      intro happart
      rw [h.isFile_eq_false hnone]
      exact Path.foldl_push_rooted
        (Path.dropEmptyLast_rooted ((h.rooted hnone list hpath).2 happart))
  · exact h

end GuardedSql.Url

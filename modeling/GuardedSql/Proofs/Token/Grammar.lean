import GuardedSql.Proofs.Check
import GuardedSql.Proofs.Text.Runs
import GuardedSql.Proofs.Text.Trim
import GuardedSql.Proofs.Token.Segment

/-! # The grammar of tokens — what is accepted, and what is said of the rest

    `Grammatical` says what a token of each role looks like, without going
    through the tests of the guard: which characters it holds, which maximal
    runs of word characters, and how a name falls into segments.

    What the guard says of a token that is not accepted depends on the order
    of its tests.  `rules` lists what can be wrong with a token, each with its
    error, and `Outcome` is the verdict of such a list: the error of the first
    rule that is broken.  `outcome_check` is the guard against that list, one
    lemma for each of its tests, and the grammar is the case in which no rule
    is broken. -/

namespace GuardedSql

/-! ## Segments -/

namespace Name

variable {segment part : Text}

/-- The segment is written with the part: the part alone, or between
    delimiters, and it holds no backtick of its own. -/
def Carries (segment part : Text) : Prop :=
  tick ∉ part ∧ (segment = part ∨ segment = enclose part)

theorem tick_mem_enclose (part : Text) : tick ∈ enclose part := by
  rw [enclose, List.cons_append]
  exact List.mem_cons_self ..

@[simp] theorem isDelimited_enclose (part : Text) : isDelimited (enclose part) = true := by
  simp [enclose, isDelimited]

/-- Between the delimiters of an enclosed part is the part. -/
@[simp] theorem inner_enclose (part : Text) : inner (enclose part) = part := by
  simp [inner, enclose, isDelimited]

theorem tick_mem_of_isDelimited (h : isDelimited segment = true) : tick ∈ segment := by
  rw [eq_enclose_inner h]
  exact tick_mem_enclose _

/-- The part of a segment is what stands between its delimiters. -/
theorem Carries.inner_eq (h : Carries segment part) : inner segment = part := by
  obtain ⟨hpart, rfl | rfl⟩ := h
  · refine inner_of_not_isDelimited (Bool.eq_false_iff.mpr fun hdelimited => ?_)
    exact hpart (tick_mem_of_isDelimited hdelimited)
  · exact inner_enclose part

/-- A segment is well formed exactly if no backtick is left between its
    delimiters. -/
theorem exists_carries_iff : (∃ part, Carries segment part) ↔ tick ∉ inner segment := by
  constructor
  · rintro ⟨part, h⟩
    rw [h.inner_eq]
    exact h.1
  · exact fun hinner => ⟨inner segment, hinner, eq_inner_or_eq_enclose segment⟩

/-- A well-formed segment holds a backtick exactly if it is delimited. -/
theorem Carries.contains_tick (h : Carries segment part) :
    segment.contains tick = isDelimited segment := by
  obtain ⟨hpart, rfl | rfl⟩ := h
  · have hcontains : segment.contains tick = false :=
      Bool.eq_false_iff.mpr fun hmem => hpart (List.contains_iff_mem.mp hmem)
    have hdelimited : isDelimited segment = false :=
      Bool.eq_false_iff.mpr fun hdelimited => hpart (tick_mem_of_isDelimited hdelimited)
    rw [hcontains, hdelimited]
  · simp [tick_mem_enclose]

/-- Without backticks at its ends a well-formed segment is its part. -/
theorem Carries.trimWith_eq (h : Carries segment part) :
    segment.trimWith (· == tick) = part := by
  obtain ⟨hpart, hsegment⟩ := h
  have hnot : ∀ c ∈ part, (c == tick) = false := fun c hc =>
    beq_false_of_ne fun heq => hpart (heq ▸ hc)
  rcases hsegment with rfl | rfl
  · exact Text.trimWith_of_not hnot
  · exact Text.trimWith_enclosed (beq_self_eq_true tick) hnot

end Name

namespace Token

variable {role : Role} {token : Text}

/-! ## The grammar -/

/-- How many characters the segment at the given place of a name may have:
    the delimiters of the first of several segments are allowed on top. -/
def longest (name : Text) (place : Nat) (segment : Text) : Nat :=
  if place = 0 ∧ '.' ∈ name ∧ Name.isDelimited segment = true then 66 else 64

/-- What the role asks for of a token, besides the characters and words that
    no token holds. -/
def Form (role : Role) (token : Text) : Prop :=
  match role with
  | .name =>
      ∀ place segment, (token.splitOn '.')[place]? = some segment →
        (∃ part, Name.Carries segment part ∧ ∃ c ∈ part, Text.isBlank c = false) ∧
          segment.length ≤ longest token place segment
  | .value => Name.tick ∉ token
  | .range => Name.tick ∉ token ∧ ∃ low high, Literal.bounds? token = some (low, high)
  | .list => Name.tick ∉ token ∧ ∀ item ∈ token.splitOn ',', ∃ c ∈ item, Text.isBlank c = false

/-- The tokens of a role. -/
structure Grammatical (role : Role) (token : Text) : Prop where
  filled : ∃ c ∈ token, Text.isBlank c = false
  symbols : ∀ c ∈ token, c ∉ ['*', '=', '<', '>', '!', '\'', '"', ';']
  dashes : ¬ ['-', '-'] <:+: token
  comma : ',' ∈ token → role = .list
  /-- No word is a keyword, but for the one that separates the bounds of a
      range. -/
  keywords : ∀ word, token.HasRun isWordChar word → ∀ keyword ∈ keywords,
    word.sameFold keyword = true → keyword = chars "AND" ∧ role = .range
  orderBy : ∀ word next, token.HasNextRun isWordChar word next →
    ¬ (word.sameFold (chars "ORDER") = true ∧ next.sameFold (chars "BY") = true)
  form : Form role token

/-! ## Rules in order -/

/-- Something that can be wrong with a token, and the error that says so. -/
structure Rule where
  broken : Prop
  error : Error

/-- The outcome of a list of rules: the error of the first that is broken. -/
inductive Outcome : List Rule → Except Error Unit → Prop
  | passed : Outcome [] (.ok ())
  | broken {rule : Rule} {rules : List Rule} (h : rule.broken) :
      Outcome (rule :: rules) (.error rule.error)
  | kept {rule : Rule} {rules : List Rule} {outcome : Except Error Unit} (h : ¬ rule.broken)
      (rest : Outcome rules outcome) : Outcome (rule :: rules) outcome

/-- What can be wrong with the words of a token, from the first word on. -/
def wordRules (role : Role) (token : Text) : List Text → List Rule
  | [] => []
  | word :: rest =>
      ⟨∃ keyword ∈ keywords, word.sameFold keyword = true ∧
          ¬ (keyword = chars "AND" ∧ role = .range),
        .unexpected (.containsKeyword token word.upper)⟩ ::
      ⟨word.sameFold (chars "ORDER") = true ∧
          ∃ next ∈ rest.head?, next.sameFold (chars "BY") = true,
        .unexpected (.containsKeyword token (chars "ORDER BY"))⟩ ::
      wordRules role token rest

/-- A backtick stands where it delimits nothing. -/
def tickRule (role : Role) (token : Text) : Rule where
  broken :=
    match role with
    | .name => ∃ segment ∈ token.splitOn '.', ∀ part, ¬ Name.Carries segment part
    | _ => Name.tick ∈ token
  error := .unexpected (.containsSymbol token [Name.tick])

/-- What can be wrong with a token of the role only. -/
def roleRules (role : Role) (token : Text) : List Rule :=
  match role with
  | .name =>
      ⟨∃ segment ∈ token.splitOn '.', ∃ part, Name.Carries segment part ∧
          ∀ c ∈ part, Text.isBlank c = true,
        .emptyValue (chars "identifier segment")⟩ ::
      (token.splitOn '.').mapIdx fun place segment =>
        ⟨longest token place segment < segment.length,
          .tooLong token (longest token place segment)⟩
  | .value => []
  | .range => [⟨Literal.bounds? token = none, .unexpected (.notARange token)⟩]
  | .list =>
      [⟨∃ item ∈ token.splitOn ',', ∀ c ∈ item, Text.isBlank c = true,
        .emptyValue (chars "IN value")⟩]

/-- Symbols in a token, in the order in which they are looked for; a list may
    hold commas. -/
def symbolRules (role : Role) (token : Text) : List Rule :=
  (symbols.filter fun symbol => !(symbol == [','] && role == .list)).map fun symbol =>
    ⟨symbol <:+: token, .unexpected (.containsSymbol token symbol)⟩

/-- What can be wrong with a token, in the order in which it is said: the
    wildcard, emptiness, the symbols one after another, the backticks, the
    words one after another, and what the role asks for. -/
def rules (role : Role) (token : Text) : List Rule :=
  ⟨'*' ∈ token, .wildcard token⟩ ::
  ⟨∀ c ∈ token, Text.isBlank c = true, .emptyValue role.context⟩ ::
  (symbolRules role token ++ tickRule role token ::
    (wordRules role token (token.runs isWordChar) ++ roleRules role token))

/-- An error to report, if there is one. -/
def refusal : Option Error → Except Error Unit
  | some error => .error error
  | none => .ok ()

namespace Outcome

variable {rules more : List Rule} {x y : Except Error Unit}

/-- Nothing is wrong exactly if no rule is broken. -/
theorem eq_ok_iff (h : Outcome rules x) : x = .ok () ↔ ∀ rule ∈ rules, ¬ rule.broken := by
  induction h with
  | passed => exact ⟨fun _ => nofun, fun _ => rfl⟩
  | broken hbroken => exact ⟨nofun, fun h => absurd hbroken (h _ (List.mem_cons_self ..))⟩
  | kept hkept _ ih =>
      rw [ih, List.forall_mem_cons]
      exact ⟨fun h => ⟨hkept, h⟩, fun h => h.2⟩

/-- A list of rules has one outcome. -/
theorem unique (hx : Outcome rules x) (hy : Outcome rules y) : x = y := by
  induction hx with
  | passed =>
      cases hy with
      | passed => rfl
  | broken hbroken =>
      cases hy with
      | broken _ => rfl
      | kept hkept _ => exact absurd hbroken hkept
  | kept hkept _ ih =>
      cases hy with
      | broken hbroken => exact absurd hbroken hkept
      | kept _ hrest => exact ih hrest

/-- More rules are looked at if the first ones are kept. -/
theorem seq (h : Outcome rules x) (hmore : x = .ok () → Outcome more y) :
    Outcome (rules ++ more) (x >>= fun _ => y) := by
  induction h with
  | passed => exact hmore rfl
  | broken hbroken => exact .broken hbroken
  | kept hkept _ ih => exact .kept hkept (ih hmore)

/-- A single test. -/
theorem ite (rule : Rule) {p : Prop} [Decidable p] (h : p ↔ rule.broken) :
    Outcome [rule] (if p then .error rule.error else .ok ()) := by
  by_cases hp : p
  · rw [if_pos hp]
    exact .broken (h.mp hp)
  · rw [if_neg hp]
    exact .kept (fun hbroken => hp (h.mpr hbroken)) .passed

/-- One test for each element of a list, up to the first that fails. -/
theorem find {α : Type} {rule : α → Rule} {test : α → Bool}
    (h : ∀ a, test a = true ↔ (rule a).broken) (as : List α) :
    Outcome (as.map rule) (refusal ((as.find? test).map fun a => (rule a).error)) := by
  induction as with
  | nil => exact .passed
  | cons a as ih =>
      rw [List.map_cons]
      cases ha : test a with
      | true =>
          rw [List.find?_cons_of_pos ha]
          exact .broken ((h a).mp ha)
      | false =>
          have hneg : ¬ test a = true := by rw [ha]; exact Bool.false_ne_true
          rw [List.find?_cons_of_neg hneg]
          exact .kept (fun hbroken => hneg ((h a).mpr hbroken)) ih

/-- One check for each element of a list, by its place. -/
theorem forM {α : Type} {rule : Nat → α → Rule} {check : α → Except Error Unit} {as : List α}
    (h : ∀ place, ∀ a ∈ as, Outcome [rule place a] (check a)) :
    Outcome (as.mapIdx rule) (as.forM check) := by
  induction as generalizing rule with
  | nil => exact .passed
  | cons a as ih =>
      obtain ⟨ha, has⟩ : Outcome [rule 0 a] (check a) ∧
          ∀ place, ∀ b ∈ as, Outcome [rule (place + 1) b] (check b) :=
        ⟨h 0 a (List.mem_cons_self ..),
          fun place b hb => h (place + 1) b (List.mem_cons_of_mem _ hb)⟩
      rw [List.mapIdx_cons]
      exact ha.seq fun _ => ih has

end Outcome

/-! ## The tests of the guard -/

/-- The guard is one test after another. -/
theorem check_eq :
    check role token =
      ((if token.contains '*' then .error (.wildcard token) else .ok () : Except Error Unit) >>=
        fun _ => (if token.allBlank then .error (.emptyValue role.context) else .ok ()) >>=
        fun _ => refusal ((symbolIn? role token).map fun symbol =>
          .unexpected (.containsSymbol token symbol)) >>=
        fun _ => (if misplacedTick role token then
          .error (.unexpected (.containsSymbol token [Name.tick])) else .ok ()) >>=
        fun _ => refusal ((keywordIn? role (wordsOf token)).map fun keyword =>
          .unexpected (.containsKeyword token keyword)) >>=
        fun _ => checkRole role token) := by
  rw [check]
  cases token.contains '*' with
  | true => rfl
  | false =>
      cases token.allBlank with
      | true => rfl
      | false =>
          cases symbolIn? role token with
          | some symbol => rfl
          | none =>
              cases misplacedTick role token with
              | true => rfl
              | false => cases keywordIn? role (wordsOf token) <;> rfl

/-- The search for a symbol says what the first broken rule about symbols
    says. -/
theorem outcome_symbols (role : Role) (token : Text) :
    Outcome (symbolRules role token) (refusal ((symbolIn? role token).map fun symbol =>
      .unexpected (.containsSymbol token symbol))) := by
  have hfind : symbolIn? role token =
      (symbols.filter fun symbol => !(symbol == [','] && role == .list)).find?
        (Text.occursIn · token) := by
    simp only [symbolIn?, List.find?_filter, Bool.decide_and, Bool.decide_eq_true]
  rw [hfind]
  exact Outcome.find (fun symbol => Text.occursIn_iff) _

/-- A name is free of misplaced backticks if every segment carries a part. -/
theorem misplacedTick_name : misplacedTick .name token = true ↔
    ∃ segment ∈ token.splitOn '.', ∀ part, ¬ Name.Carries segment part := by
  show (Name.segments token).any _ = true ↔ _
  rw [List.any_eq_true]
  refine exists_congr fun segment => and_congr_right fun _ => ?_
  rw [List.contains_iff_mem, ← not_exists, Name.exists_carries_iff, not_not]

/-- The search for a backtick says what the rule about backticks says. -/
theorem outcome_tick (role : Role) (token : Text) :
    Outcome [tickRule role token] (if misplacedTick role token then
      .error (.unexpected (.containsSymbol token [Name.tick])) else .ok ()) := by
  refine Outcome.ite (tickRule role token) ?_
  cases role with
  | name => exact misplacedTick_name
  | value | range | list => exact List.contains_iff_mem

/-- A word in the case of a text that is in upper case. -/
theorem sameFold_iff {word keyword : Text} (h : keyword.upper = keyword) :
    word.sameFold keyword = true ↔ word.upper = keyword := by
  rw [Text.sameFold, h, beq_iff_eq]

theorem upper_keyword : ∀ keyword ∈ keywords, keyword.upper = keyword := by
  with_unfolding_all decide

@[simp] theorem upper_order : (chars "ORDER").upper = chars "ORDER" := by with_unfolding_all decide

@[simp] theorem upper_by : (chars "BY").upper = chars "BY" := by with_unfolding_all decide

/-- A word is forbidden exactly if it is a keyword in upper case, but for the
    `AND` of a range. -/
theorem isForbidden_iff {word : Text} :
    (∃ keyword ∈ keywords, word.sameFold keyword = true ∧
      ¬ (keyword = chars "AND" ∧ role = .range)) ↔
      word.upper ∈ keywords ∧ ¬ (word.upper = chars "AND" ∧ role = .range) := by
  constructor
  · rintro ⟨keyword, hkey, hsame, hand⟩
    obtain rfl := (sameFold_iff (upper_keyword keyword hkey)).mp hsame
    exact ⟨hkey, hand⟩
  · rintro ⟨hkey, hand⟩
    exact ⟨word.upper, hkey, (sameFold_iff (upper_keyword _ hkey)).mpr rfl, hand⟩

/-- Two words are `ORDER BY` exactly if they are in upper case. -/
theorem isOrderBy_iff {word : Text} {rest : List Text} :
    (word.sameFold (chars "ORDER") = true ∧
      ∃ next ∈ rest.head?, next.sameFold (chars "BY") = true) ↔
      word.upper = chars "ORDER" ∧ (rest.map Text.upper).head? = some (chars "BY") := by
  simp only [sameFold_iff upper_order, sameFold_iff upper_by, List.head?_map,
    Option.map_eq_some_iff, Option.mem_def]

/-- The search for a keyword says what the first broken rule about words
    says. -/
theorem outcome_words (role : Role) (token : Text) (words : List Text) :
    Outcome (wordRules role token words)
      (refusal ((keywordIn? role (words.map Text.upper)).map fun keyword =>
        .unexpected (.containsKeyword token keyword))) := by
  induction words with
  | nil => exact .passed
  | cons word rest ih =>
      rw [wordRules, List.map_cons, keywordIn?]
      by_cases hand : word.upper = chars "AND" ∧ role = .range
      · have horder : chars "AND" ≠ chars "ORDER" := by with_unfolding_all decide
        rw [if_pos hand]
        refine .kept (fun h => (isForbidden_iff.mp h).2 hand) (.kept (fun h => ?_) ih)
        exact horder (hand.1.symm.trans (isOrderBy_iff.mp h).1)
      · rw [if_neg hand]
        by_cases hkey : word.upper ∈ keywords
        · rw [if_pos hkey]
          exact .broken (isForbidden_iff.mpr ⟨hkey, hand⟩)
        · rw [if_neg hkey]
          refine .kept (fun h => hkey (isForbidden_iff.mp h).1) ?_
          by_cases horder :
              word.upper = chars "ORDER" ∧ (rest.map Text.upper).head? = some (chars "BY")
          · rw [if_pos horder]
            exact .broken (isOrderBy_iff.mpr horder)
          · rw [if_neg horder]
            exact .kept (fun h => horder (isOrderBy_iff.mp h)) ih

/-! ### What the role asks for -/

/-- A name of one segment has no dot. -/
theorem dot_not_mem_of_splitOn {segment : Text} (h : token.splitOn '.' = [segment]) :
    '.' ∉ token := by
  have hnot : ∀ c ∈ segment, (c == '.') = false := by
    refine Text.not_of_mem_splitOnP (t := token) ?_
    rw [← List.splitOn_eq_splitOnP, h]
    exact List.mem_singleton_self segment
  have hsegment : segment = token := by
    have hjoin : ['.'].intercalate (token.splitOn '.') = token := List.intercalate_splitOn '.'
    rw [← hjoin, h, List.intercalate_singleton]
  rw [← hsegment]
  exact fun hmem => absurd (hnot '.' hmem) (by decide)

/-- A name of several segments has a dot. -/
theorem dot_mem_of_splitOn {first second : Text} {rest : List Text}
    (h : token.splitOn '.' = first :: second :: rest) : '.' ∈ token := by
  refine Classical.byContradiction fun hnot => ?_
  have hsingle : token.splitOn '.' = [token] := by
    rw [List.splitOn_eq_splitOnP]
    exact List.splitOnP_eq_singleton fun c hc => beq_false_of_ne fun heq => hnot (heq ▸ hc)
  exact nomatch hsingle.symm.trans h

/-- Every segment but the first has the same greatest length. -/
@[simp] theorem longest_succ (place : Nat) (segment : Text) :
    longest token (place + 1) segment = 64 :=
  if_neg fun h => Nat.succ_ne_zero place h.1

/-- The limit of the first segment is looked for among all characters of the
    segment, and only a delimited one holds a backtick. -/
theorem longest_first {first : Text} {rest : List Text}
    (hsplit : token.splitOn '.' = first :: rest) (h : ∃ part, Name.Carries first part) :
    longest token 0 first =
      if !rest.isEmpty && first.contains Name.tick then maxDelimitedFirst else maxSegment := by
  obtain ⟨part, hpart⟩ := h
  have hdot : '.' ∈ token ↔ (!rest.isEmpty) = true := by
    cases rest with
    | nil => exact iff_of_false (dot_not_mem_of_splitOn hsplit) Bool.false_ne_true
    | cons second rest => exact iff_of_true (dot_mem_of_splitOn hsplit) rfl
  rw [longest, hpart.contains_tick]
  simp only [hdot, true_and, Bool.and_eq_true, maxDelimitedFirst, maxSegment]

/-- The test of a length says what the rule about it says. -/
theorem outcome_length {place limit : Nat} {segment : Text}
    (h : longest token place segment = limit) :
    Outcome [⟨longest token place segment < segment.length,
        .tooLong token (longest token place segment)⟩]
      (if segment.length > limit then .error (.tooLong token limit) else .ok ()) := by
  rw [← h]
  exact Outcome.ite _ Iff.rfl

/-- The test for a blank segment is about what the segment carries. -/
theorem any_blank_iff (h : ∀ segment ∈ token.splitOn '.', ∃ part, Name.Carries segment part) :
    (token.splitOn '.').any
        (fun segment => (Text.trimWith (· == Name.tick) segment).allBlank) = true ↔
      ∃ segment ∈ token.splitOn '.', ∃ part, Name.Carries segment part ∧
        ∀ c ∈ part, Text.isBlank c = true := by
  rw [List.any_eq_true]
  refine exists_congr fun segment => and_congr_right fun hsegment => ?_
  obtain ⟨part, hpart⟩ := h segment hsegment
  rw [hpart.trimWith_eq, Text.allBlank, List.all_eq_true]
  constructor
  · exact fun hall => ⟨part, hpart, hall⟩
  · rintro ⟨other, hother, hall⟩
    rw [← hpart.inner_eq, hother.inner_eq]
    exact hall

/-- The tests of the segments say what the first broken rule about names says,
    if the backticks are in their places. -/
theorem outcome_segments (h : ∀ segment ∈ token.splitOn '.', ∃ part, Name.Carries segment part) :
    Outcome (roleRules .name token) (checkSegments token) := by
  have hblank := any_blank_iff h
  obtain ⟨first, rest, hsplit⟩ := List.exists_cons_of_ne_nil (List.splitOn_ne_nil '.' token)
  have hfirst := longest_first hsplit (h first (hsplit ▸ List.mem_cons_self ..))
  rw [hsplit] at hblank
  rw [checkSegments, roleRules, Name.segments, hsplit]
  dsimp only
  cases hany : (first :: rest).any fun segment =>
      (Text.trimWith (· == Name.tick) segment).allBlank with
  | true => exact .broken (hblank.mp hany)
  | false =>
      refine .kept (fun hbroken => Bool.false_ne_true (hany.symm.trans (hblank.mpr hbroken))) ?_
      rw [List.mapIdx_cons]
      refine (outcome_length hfirst).seq fun _ => Outcome.forM fun place segment _ => ?_
      exact outcome_length (longest_succ place segment)

/-- The tests of a role say what the first broken rule about it says, if the
    backticks are in their places. -/
theorem outcome_role (h : misplacedTick role token = false) :
    Outcome (roleRules role token) (checkRole role token) := by
  cases role with
  | name =>
      refine outcome_segments fun segment hsegment => Classical.byContradiction fun hnone => ?_
      rw [misplacedTick_name.mpr ⟨segment, hsegment, not_exists.mp hnone⟩] at h
      exact Bool.noConfusion h
  | value => exact .passed
  | range =>
      rw [checkRole, roleRules]
      cases hbounds : Literal.bounds? token with
      | none => exact .broken rfl
      | some bounds => exact .kept (Option.some_ne_none bounds) .passed
  | list =>
      refine Outcome.ite ⟨∃ item ∈ token.splitOn ',', ∀ c ∈ item, Text.isBlank c = true,
        .emptyValue (chars "IN value")⟩ ?_
      rw [Literal.items, List.any_map, List.any_eq_true]
      refine exists_congr fun item => and_congr_right fun _ => ?_
      simp [Text.allBlank]

/-- **The order of the tests**: the guard says of a token what the first
    broken rule says. -/
theorem outcome_check (role : Role) (token : Text) :
    Outcome (rules role token) (check role token) := by
  have hstar : Outcome [⟨'*' ∈ token, .wildcard token⟩]
      (if token.contains '*' then .error (.wildcard token) else .ok ()) :=
    Outcome.ite _ List.contains_iff_mem
  have hblank : Outcome
      [⟨∀ c ∈ token, Text.isBlank c = true, .emptyValue role.context⟩]
      (if token.allBlank then .error (.emptyValue role.context) else .ok ()) :=
    Outcome.ite _ List.all_eq_true
  rw [check_eq, rules]
  refine hstar.seq fun _ => hblank.seq fun _ => ?_
  refine (outcome_symbols role token).seq fun _ => ?_
  refine (outcome_tick role token).seq fun htick => ?_
  refine (outcome_words role token _).seq fun _ => outcome_role ?_
  -- the last tests are made only if no backtick is misplaced
  cases hmisplaced : misplacedTick role token with
  | false => rfl
  | true =>
      rw [hmisplaced] at htick
      exact nomatch htick

/-! ## The grammar is the case without a broken rule -/

/-- The rules about words are kept exactly if no word and no pair of words is
    forbidden. -/
theorem kept_wordRules {words : List Text} :
    (∀ rule ∈ wordRules role token words, ¬ rule.broken) ↔
      (∀ word ∈ words, ∀ keyword ∈ keywords, word.sameFold keyword = true →
        keyword = chars "AND" ∧ role = .range) ∧
      ∀ word next, [word, next] <:+: words →
        ¬ (word.sameFold (chars "ORDER") = true ∧ next.sameFold (chars "BY") = true) := by
  induction words with
  | nil => simp [wordRules]
  | cons first rest ih =>
      -- a pair of neighbours begins with the first word, or is one of the rest
      have hpair : ∀ word next, [word, next] <:+: first :: rest ↔
          (word = first ∧ next ∈ rest.head?) ∨ [word, next] <:+: rest := by
        intro word next
        cases rest with
        | nil => simp [List.infix_cons_iff]
        | cons second rest => simp [List.infix_cons_iff, eq_comm]
      rw [wordRules, List.forall_mem_cons, List.forall_mem_cons, ih, List.forall_mem_cons]
      constructor
      · rintro ⟨hfirst, horder, hwords, hpairs⟩
        refine ⟨⟨fun keyword hkey hsame => ?_, hwords⟩, fun word next hinfix hsame => ?_⟩
        · exact Classical.byContradiction fun hnot => hfirst ⟨keyword, hkey, hsame, hnot⟩
        · rcases (hpair word next).mp hinfix with ⟨rfl, hnext⟩ | hrest
          · exact horder ⟨hsame.1, next, hnext, hsame.2⟩
          · exact hpairs word next hrest hsame
      · rintro ⟨⟨hfirst, hwords⟩, hpairs⟩
        refine ⟨?_, ?_, hwords, fun word next hrest => ?_⟩
        · rintro ⟨keyword, hkey, hsame, hnot⟩
          exact hnot (hfirst keyword hkey hsame)
        · rintro ⟨hsame, next, hnext, hby⟩
          exact hpairs first next ((hpair first next).mpr (Or.inl ⟨rfl, hnext⟩)) ⟨hsame, hby⟩
        · exact hpairs word next ((hpair word next).mpr (Or.inr hrest))

/-- The rules about names are kept exactly if the name has the form of one. -/
theorem kept_segments :
    ¬ (tickRule .name token).broken ∧ (∀ rule ∈ roleRules .name token, ¬ rule.broken) ↔
      Form .name token := by
  rw [roleRules, List.forall_mem_cons]
  constructor
  · rintro ⟨hticks, hblank, hlength⟩ place segment hplace
    have hmem := List.mem_of_getElem? hplace
    obtain ⟨part, hpart⟩ : ∃ part, Name.Carries segment part :=
      Classical.byContradiction fun hnone => hticks ⟨segment, hmem, not_exists.mp hnone⟩
    refine ⟨⟨part, hpart, ?_⟩, ?_⟩
    · refine Classical.byContradiction fun hnone => hblank ⟨segment, hmem, part, hpart, ?_⟩
      intro c hc
      exact (Bool.not_eq_false _).mp fun hfalse => hnone ⟨c, hc, hfalse⟩
    · obtain ⟨hlt, rfl⟩ := List.getElem?_eq_some_iff.mp hplace
      exact Nat.not_lt.mp (hlength _ (List.mem_mapIdx.mpr ⟨place, hlt, rfl⟩))
  · intro hform
    have hplaced : ∀ segment ∈ token.splitOn '.', ∃ part, Name.Carries segment part ∧
        ∃ c ∈ part, Text.isBlank c = false := by
      intro segment hmem
      obtain ⟨place, hplace⟩ := List.mem_iff_getElem?.mp hmem
      exact (hform place segment hplace).1
    refine ⟨?_, ?_, ?_⟩
    · rintro ⟨segment, hmem, hnone⟩
      obtain ⟨part, hpart, -⟩ := hplaced segment hmem
      exact hnone part hpart
    · rintro ⟨segment, hmem, part, hpart, hblank⟩
      obtain ⟨other, hother, c, hc, hfilled⟩ := hplaced segment hmem
      rw [← hother.inner_eq, hpart.inner_eq] at hc
      exact Bool.noConfusion (hfilled.symm.trans (hblank c hc))
    · intro rule hrule
      obtain ⟨place, hlt, rfl⟩ := List.mem_mapIdx.mp hrule
      exact Nat.not_lt.mpr (hform place _ (List.getElem?_eq_getElem hlt)).2

/-- The rules about a role are kept exactly if the token has its form. -/
theorem kept_form :
    ¬ (tickRule role token).broken ∧ (∀ rule ∈ roleRules role token, ¬ rule.broken) ↔
      Form role token := by
  cases role with
  | name => exact kept_segments
  | value => exact ⟨fun h => h.1, fun h => ⟨h, nofun⟩⟩
  | range =>
      rw [roleRules, List.forall_mem_singleton, Form]
      refine and_congr_right fun _ => ?_
      cases Literal.bounds? token with
      | none => exact iff_of_false (fun h => h rfl) nofun
      | some bounds => exact iff_of_true nofun ⟨bounds.1, bounds.2, rfl⟩
  | list =>
      rw [roleRules, List.forall_mem_singleton, Form]
      refine and_congr_right fun _ => ?_
      simp only [not_exists, not_and, not_forall, Bool.not_eq_true, exists_prop]

/-- The symbols of one character, and the two that are told apart. -/
theorem symbols_eq :
    symbols = [['='], ['<'], ['>'], ['!'], ['\''], ['"'], [','], [';'], ['-', '-']] := by
  with_unfolding_all decide

/-- The rules about symbols are kept exactly if none stands in the token, but
    for the comma of a list. -/
theorem kept_symbolRules :
    (∀ rule ∈ symbolRules role token, ¬ rule.broken) ↔
      (∀ c ∈ ['=', '<', '>', '!', '\'', '"', ';'], c ∉ token) ∧ ¬ ['-', '-'] <:+: token ∧
        (',' ∈ token → role = .list) := by
  rw [symbolRules, symbols_eq, List.forall_mem_map]
  by_cases hlist : role = .list
  · simp [hlist, List.singleton_infix_iff, and_assoc]
  · simp [hlist, List.singleton_infix_iff]
    tauto

/-- A token is in the grammar exactly if no rule is broken. -/
theorem grammatical_iff :
    Grammatical role token ↔ ∀ rule ∈ rules role token, ¬ rule.broken := by
  rw [rules, List.forall_mem_cons, List.forall_mem_cons, List.forall_mem_append,
    List.forall_mem_cons, List.forall_mem_append, kept_wordRules, kept_symbolRules]
  have hfilled : ¬ (∀ c ∈ token, Text.isBlank c = true) ↔
      ∃ c ∈ token, Text.isBlank c = false := by
    simp only [not_forall, exists_prop, Bool.not_eq_true]
  have hsymbols : (∀ c ∈ token, c ∉ ['*', '=', '<', '>', '!', '\'', '"', ';']) ↔
      '*' ∉ token ∧ ∀ c ∈ ['=', '<', '>', '!', '\'', '"', ';'], c ∉ token := by
    rw [← List.forall_mem_cons (p := (· ∉ token))]
    exact ⟨fun h c hc hmem => h c hmem hc, fun h c hmem hc => h c hc hmem⟩
  simp only [Text.mem_runs_iff, Text.pair_infix_runs_iff]
  constructor
  · intro h
    obtain ⟨hstar, hothers⟩ := hsymbols.mp h.symbols
    obtain ⟨htick, hrole⟩ := kept_form.mpr h.form
    exact ⟨hstar, hfilled.mpr h.filled, ⟨hothers, h.dashes, h.comma⟩, htick,
      ⟨h.keywords, h.orderBy⟩, hrole⟩
  · rintro ⟨hstar, hblank, ⟨hothers, hdashes, hcomma⟩, htick, ⟨hkeywords, horder⟩, hrole⟩
    exact ⟨hfilled.mp hblank, hsymbols.mpr ⟨hstar, hothers⟩, hdashes, hcomma, hkeywords, horder,
      kept_form.mp ⟨htick, hrole⟩⟩

/-- **The grammar of tokens**: a token is accepted exactly if it is in the
    grammar of its role, and of any other token the guard says what the first
    broken rule says, in the order in which the rules are listed. -/
theorem check_of_grammar (role : Role) (token : Text) :
    (check role token = .ok () ↔ Grammatical role token) ∧
      ∀ outcome, check role token = outcome ↔ Outcome (rules role token) outcome := by
  have houtcome := outcome_check role token
  refine ⟨houtcome.eq_ok_iff.trans grammatical_iff.symm, fun outcome => ?_⟩
  exact ⟨fun h => h ▸ houtcome, houtcome.unique⟩

/-- A lone delimiter is a misplaced backtick, and a pair of them is a segment
    without content. -/
example :
    check .name (chars "a.`") =
      .error (.unexpected (.containsSymbol (chars "a.`") [Name.tick])) ∧
    check .name (chars "a.``") = .error (.emptyValue (chars "identifier segment")) := by
  decide +kernel

end Token

end GuardedSql

import GuardedSql.Proofs.Json.Parse
import GuardedSql.Proofs.Json.Texts
import GuardedSql.Response

/-! # Rows — what a read brings back

    Rows come as the member `Data` of an object.  However that object is
    written, the rows that are read are the rows that were sent, in order and
    with nothing changed in them.

    An answer without rows is told by a mark, which is looked for in the body
    before the body is read.  Nothing of the form of JSON shows that mark, so
    rows are taken for none only if one of their strings or names holds it;
    and as the writer writes them, they then are. -/

namespace GuardedSql.Response

open Json

variable {rows : List Json} {body : Text}

/-- The answer to a read that brings these rows. -/
def answer (rows : List Json) : Json := object [(chars "Data", array rows)]

/-- The rows stand in the data of the answer. -/
@[simp] theorem get?_answer (rows : List Json) :
    (answer rows).get? (chars "Data") = some (array rows) := by
  simp [answer, Json.get?]

/-- The object and the list of the rows take two levels of nesting. -/
theorem within_answer (h : ∀ row ∈ rows, Within (maxDepth - 2) row) :
    Within maxDepth (answer rows) :=
  .object (List.pairwise_singleton _ _) (List.forall_mem_singleton.mpr (.array h))

/-- A body without the mark is read for the rows that it was written for. -/
theorem rows_of_not_occursIn {α : Type} (read : RowReader α) (h : Within maxDepth (answer rows))
    (hbody : Written (answer rows) body) (hmark : noDataMark.occursIn body = false) :
    Response.rows read body =
      match rows.mapM read with
      | some rows => .ok rows
      | none => .error (.unreadable .mismatch) := by
  rw [Response.rows, if_neg (by rw [hmark]; decide), parse_of_written hbody h]
  cases hread : rows.mapM read with
  | none => simp [hread]
  | some read => simp [hread]

@[simp] theorem mapM_any (rows : List Json) : rows.mapM RowReader.any = some rows := by
  induction rows with
  | nil => rfl
  | cons row rows ih =>
      rw [List.mapM_cons, ih]
      rfl

theorem noDataMark_eq : noDataMark = 'N' :: chars "o Data" := by with_unfolding_all rfl

/-- The mark can stand in a string or in a name only. -/
theorem telling_noDataMark : Telling 'N' (chars "o Data") where
  first := by decide
  quote := by with_unfolding_all decide
  slash := by with_unfolding_all decide

/-- The name `Data` does not hold the mark. -/
theorem not_occursIn_answer (hmark : ∀ s ∈ (array rows).texts, noDataMark.occursIn s = false) :
    ∀ s ∈ (answer rows).texts, noDataMark.occursIn s = false := by
  intro s hs
  have htexts : (answer rows).texts = chars "Data" :: ((array rows).texts ++ []) := rfl
  rw [htexts, List.append_nil] at hs
  rcases List.mem_cons.mp hs with rfl | hs
  · with_unfolding_all decide
  · exact hmark s hs

theorem mem_texts_answer {s : Text} (hs : s ∈ (array rows).texts) : s ∈ (answer rows).texts :=
  List.mem_cons_of_mem _ (List.mem_append_left _ hs)

/-- Rows without the mark are written without it. -/
theorem not_occursIn_of_written (hbody : Written (answer rows) body)
    (hmark : ∀ s ∈ (array rows).texts, noDataMark.occursIn s = false) :
    noDataMark.occursIn body = false := by
  have htexts := not_occursIn_answer hmark
  rw [noDataMark_eq] at htexts ⊢
  exact telling_noDataMark.not_occursIn hbody htexts

/-- Rows with the mark are plainly written with it. -/
theorem occursIn_render_answer (hmark : ∃ s ∈ (array rows).texts, noDataMark.occursIn s = true) :
    noDataMark.occursIn (render (answer rows)) = true := by
  obtain ⟨s, hs, hoccurs⟩ := hmark
  have hplain : ∀ c ∈ noDataMark, escape c = [c] := by with_unfolding_all decide
  exact occursIn_render hplain (mem_texts_answer hs) hoccurs

/-- **Rows come back as they were sent**, if none of their strings and names
    holds the mark of an answer without rows: from every text of the answer
    they are read in order, and as they were.  If one does hold the mark, the
    answer as it is plainly written counts as an answer without rows. -/
theorem rows_of_written (h : Within maxDepth (answer rows)) :
    ((∀ s ∈ (array rows).texts, noDataMark.occursIn s = false) →
      ∀ body, Written (answer rows) body → Response.rows RowReader.any body = .ok rows) ∧
    ((∃ s ∈ (array rows).texts, noDataMark.occursIn s = true) →
      Response.rows RowReader.any (render (answer rows)) = .error .noData) := by
  constructor
  · intro hmark body hbody
    rw [rows_of_not_occursIn RowReader.any h hbody (not_occursIn_of_written hbody hmark), mapM_any]
  · intro hmark
    rw [Response.rows, if_pos (occursIn_render_answer hmark)]

/-- Rows of every kind, with characters to escape and with both ends of the
    range of numbers. -/
theorem rows_of_written_every_kind :
    let rows := [
      object [(chars "id", number (.whole 1)), (chars "name", string (chars "Bob\n\"é\""))],
      array [null, bool true, number (.whole (-0x8000000000000000)),
        number (.whole 0xFFFFFFFFFFFFFFFF), array [], object []],
      string (chars "no data")]
    let body := chars ("\x7b\"Data\":[\x7b\"id\":1,\"name\":\"Bob\\n\\\"é\\\"\"\x7d," ++
      "[null,true,-9223372036854775808,18446744073709551615,[],\x7b\x7d],\"no data\"]\x7d")
    Within maxDepth (answer rows) ∧ Written (answer rows) body ∧
      Response.rows RowReader.any body = .ok rows := by
  intro rows body
  have hwithin : Within maxDepth (answer rows) := by
    refine within_answer ?_
    simp only [rows, List.forall_mem_cons]
    refine ⟨.object (by with_unfolding_all decide) ?_, .array ?_, .string _, nofun⟩
    · simp only [List.forall_mem_cons]
      exact ⟨.whole (by decide) (by decide), .string _, nofun⟩
    · simp only [List.forall_mem_cons]
      exact ⟨.null, .bool _, .whole (by decide) (by decide), .whole (by decide) (by decide),
        .array nofun, .object .nil nofun, nofun⟩
  have hbody : render (answer rows) = body := by decide +kernel
  have hwritten : Written (answer rows) body := hbody ▸ written_render hwithin
  have hmark : ∀ s ∈ (array rows).texts, noDataMark.occursIn s = false := by decide +kernel
  exact ⟨hwithin, hwritten, (rows_of_written hwithin).1 hmark body hwritten⟩

/-- A single row that is the mark itself is taken for no rows. -/
theorem noData_of_marked_row :
    let rows := [string (chars "No Data")]
    let body := chars "\x7b\"Data\":[\"No Data\"]\x7d"
    Within maxDepth (answer rows) ∧ Written (answer rows) body ∧
      Response.rows RowReader.any body = .error .noData ∧
      Response.rows RowReader.any body ≠ .ok rows := by
  intro rows body
  have hwithin : Within maxDepth (answer rows) :=
    within_answer (List.forall_mem_singleton.mpr (.string _))
  have hbody : render (answer rows) = body := by decide +kernel
  have hnoData : Response.rows RowReader.any body = .error .noData := if_pos (by decide +kernel)
  refine ⟨hwithin, hbody ▸ written_render hwithin, hnoData, ?_⟩
  rw [hnoData]
  nofun

end GuardedSql.Response

import DocSelect.Proofs.Filtering
import DocSelect.Proofs.StrictJson
import DocSelect.Proofs.TableContents
import DocSelect.Proofs.TableLookup
/-!
# Searches of tables with corrupt rows

A row may hold something else than the text of a document: other text, a number, bytes or nothing.
There are three places where a search can come upon such a row: the functions of the engine refuse a
malformed document while the condition is evaluated; the report of the engine is then traced to the
first row that is no JSON text; and a row that matched is read back. A row that the functions accept
is not noticed unless it matches: nothing at all in place of a document counts as null, a number as
a document of its own, and the engine takes more than JSON and looks at no more of a document in
binary form than it needs.

* `Row.Unreadable`, `Row.Refused` : a row without a document, and one that the functions refuse
  whatever part of it is asked for;
* `Row.IsFirst` : the row of a kind with the smallest key;
* `Row.unreadable_of_isSuspect` : a row that is no JSON text cannot be read back;
* `Selector.Fits`, `Selector.HasLongPattern` : what the limits of the engine ask of a selector;
* `Database.find_corrupt` : **the first corrupt row is named** by a search that reads all rows, or
  that comes upon a row that the functions refuse.
-/

namespace DocSelect

/-! ## Corrupt rows -/

namespace Row

/-- The row cannot be read back as a document. -/
def Unreadable (r : Row) : Prop := ∀ d, r.decode ≠ .ok d

/-- The functions of the engine refuse what the row holds, whatever the path is. -/
def Refused (r : Row) : Prop := JsonFunction.document r.value.value = .error .malformedJson

/-- The row is of a kind, and among rows of that kind it has the smallest key. -/
structure IsFirst (Kind : Row → Prop) (rows : List Row) (r : Row) : Prop where
  /-- It is one of the rows. -/
  mem : r ∈ rows
  /-- It is of the kind. -/
  kind : Kind r
  /-- None has a smaller key. -/
  le : ∀ s ∈ rows, Kind s → r.key ≤ s.key

variable {Kind : Row → Prop} {rows : List Row} {r s : Row}

theorem decode_of_unreadable (h : r.Unreadable) :
    ∃ reason, r.decode = .error (.corruptRecord r.key reason) := by
  unfold Unreadable decode at h
  unfold decode
  split
  · next d hd => simp [hd] at h
  · next reason _ => exact ⟨reason, rfl⟩

/-- What is no JSON text cannot be read back. -/
theorem unreadable_of_isSuspect (h : r.isSuspect = true) : r.Unreadable := by
  intro d hd
  obtain ⟨key, c⟩ := r
  cases c with
  | null => cases hd
  | integer n => cases hd
  | real x => cases hd
  | blob bytes => cases hd
  | text s =>
    have hread : Json.readCollapsed s = .ok d := by
      unfold decode Cell.decode at hd
      cases hs : Json.readCollapsed s with
      | error f =>
        simp only [hs, Except.mapError] at hd
        cases hd
      | ok x =>
        simp only [hs, Except.mapError] at hd
        exact congrArg _ (Except.ok.inj hd)
    have hvalid : (!isValidJson s.toList) = true := h
    rw [isValidJson_of_readCollapsed hread] at hvalid
    cases hvalid

/-- The first row of a kind is the first one, or behind a row that is not of the kind. -/
theorem IsFirst.cons_cases (hrows : Increasing (s :: rows)) (h : IsFirst Kind (s :: rows) r) :
    r = s ∨ ¬ Kind s ∧ IsFirst Kind rows r := by
  rcases List.mem_cons.1 h.mem with rfl | hr
  · exact .inl rfl
  · refine .inr ⟨fun hs => ?_, hr, h.kind, fun q hq => h.le q (List.mem_cons_of_mem s hq)⟩
    have hlt := (List.pairwise_cons.1 hrows).1 r hr
    exact absurd (h.le s List.mem_cons_self hs) (not_le.2 hlt)

/-- The order in which rows stand in the table does not matter. -/
theorem IsFirst.sorted {t : Table} (h : IsFirst Kind t.rows r) : IsFirst Kind t.sorted r :=
  ⟨Table.mem_sorted.2 h.mem, h.kind, fun s hs => h.le s (Table.mem_sorted.1 hs)⟩

theorem IsFirst.find? {p : Row → Bool} (hrows : Increasing rows)
    (h : IsFirst (fun r => p r = true) rows r) : rows.find? p = some r := by
  induction rows with
  | nil => cases h.mem
  | cons s rows ih =>
    rcases h.cons_cases hrows with rfl | ⟨hs, h⟩
    · exact List.find?_cons_of_pos h.kind
    · rw [List.find?_cons_of_neg hs]
      exact ih (List.pairwise_cons.1 hrows).2 h

end Row

/-! ## Reading rows back -/

theorem exists_of_decodeRows {rows : List Row} {e : StoreError} (h : decodeRows rows = .error e) :
    ∃ r ∈ rows, r.Unreadable ∧ ∃ reason, e = .corruptRecord r.key reason := by
  induction rows with
  | nil => cases h
  | cons r rows ih =>
    rcases bind_eq_error.1 h with hr | ⟨d, -, h⟩
    · have hunreadable : r.Unreadable := by
        intro d hd
        rw [hr] at hd
        cases hd
      obtain ⟨reason, hreason⟩ := Row.decode_of_unreadable hunreadable
      exact ⟨r, List.mem_cons_self, hunreadable, reason, Except.error.inj (hr.symm.trans hreason)⟩
    · rcases bind_eq_error.1 h with hrest | ⟨ds, -, h⟩
      · obtain ⟨q, hq, hkind⟩ := ih hrest
        exact ⟨q, List.mem_cons_of_mem r hq, hkind⟩
      · cases h

/-- The first row that cannot be read back decides. -/
theorem Row.IsFirst.decodeRows {rows : List Row} {r : Row} (hrows : Increasing rows)
    (h : IsFirst Unreadable rows r) :
    ∃ reason, decodeRows rows = .error (.corruptRecord r.key reason) := by
  induction rows with
  | nil => cases h.mem
  | cons s rows ih =>
    rw [DocSelect.decodeRows]
    rcases h.cons_cases hrows with rfl | ⟨hs, h⟩
    · obtain ⟨reason, hreason⟩ := decode_of_unreadable h.kind
      rw [hreason]
      exact ⟨reason, rfl⟩
    · obtain ⟨d, hd⟩ : ∃ d, s.decode = .ok d := by
        simpa [Unreadable] using hs
      obtain ⟨reason, hreason⟩ := ih (List.pairwise_cons.1 hrows).2 h
      rw [hd, hreason]
      exact ⟨reason, rfl⟩

/-! ## Searches -/

namespace Selector

/-- Some condition of the selector is the match of a regular expression. -/
def UsesRegexp (s : Selector) : Prop := ∃ path v, .compare path .regexp v ∈ s.formula.fields

/-- Some condition of the selector has a pattern of wildcards that is longer than a pattern may
be. -/
def HasLongPattern (s : Selector) : Prop := Expr.HasLongPattern s.formula.fields

/-- The condition of the selector, as the engine reads it, is within the limits. -/
def Fits (s : Selector) : Prop :=
  ∃ e, Expr.ofText? s.toPredicate.bound.sql.toList = some e ∧ e.Fits

/-- The check of the engine is passed by the selectors within the limits. -/
theorem check_eq_ok_iff {s : Selector} : s.toPredicate.bound.check = .ok () ↔ s.Fits := by
  obtain ⟨e, he, -⟩ := s.formula.bound_spelledBy
  rw [s.toPredicate_formula] at he
  have hmeasure (m : Nat) : e.measure 0 = .ok m ↔
      m = 0 + e.holes ∧ m ≤ Expr.maxHoles ∧ e.height ≤ Expr.maxHeight :=
    Expr.measure_eq_ok_iff (Nat.zero_le _)
  unfold Fits BoundPredicate.check
  simp only [he.ofText?, Option.some.injEq, exists_eq_left']
  constructor
  · intro h
    cases hm : e.measure 0 with
    | error err =>
      rw [hm] at h
      cases h
    | ok m =>
      obtain ⟨hcount, hholes, hheight⟩ := (hmeasure m).1 hm
      exact ⟨hheight, by omega⟩
  · rintro ⟨hheight, hholes⟩
    rw [(hmeasure _).2 ⟨rfl, by omega, hheight⟩]
    rfl

end Selector

namespace Database

variable {db : Database} {name : TableName} {t : Table} {d : Json} {s : Selector}

theorem find_eq (hs : Selector.ofCollapsed d = .ok s) :
    db.find name d = db.findPredicate name s.toPredicate.bound := by
  rw [find, Selector.compileBound, hs]
  rfl

section

variable (htable : db.table? name.text = some t) (hvalues : t.shape.hasValues = true)
  (hfree : db.isLocked = false)
include htable hvalues hfree

/-- A selector within the limits keeps rows by a condition that is put together from its conditions
on fields; one that is not is refused. -/
theorem exists_matchingRows_eq (s : Selector) :
    ∃ e : Expr, e.Composed s.formula.fields ∧ e.settled = s.settled ∧
      db.matchingRows name s.toPredicate.bound = (do
        s.toPredicate.bound.check
        if e.uses .regexp ∧ !db.config.regexp then .error (.noFunction "REGEXP")
        else t.keep e) := by
  obtain ⟨e, he, hcomposed, hsettled⟩ := s.bound_condition
  refine ⟨e, hcomposed, hsettled, ?_⟩
  have hsource : db.source name [keyColumn, valueColumn] = .ok t :=
    source_eq_ok htable (TableShape.subset_columns hvalues (by decide))
  rw [matchingRows, hsource, he, free_eq_ok hfree]
  rfl

/-- Rows that match are rows of the table. -/
theorem subset_of_matchingRows {kept : List Row}
    (h : db.matchingRows name s.toPredicate.bound = .ok kept) : kept ⊆ t.rows := by
  obtain ⟨e, -, -, hmatching⟩ := exists_matchingRows_eq htable hvalues hfree s
  rw [hmatching] at h
  obtain ⟨-, -, h⟩ := bind_eq_ok.1 h
  split at h
  · cases h
  · obtain ⟨rows, hrows, h⟩ := bind_eq_ok.1 h
    have hsubset := (Expr.sublist_of_keep hrows).subset
    cases h
    split
    · exact hsubset
    · exact fun r hr => hsubset (mem_sortRows.1 hr)

/-- If the empty groups make a selector true, all rows match. -/
theorem matchingRows_of_settled_true (hsettled : s.settled = some true) (hfits : s.Fits)
    (hregexp : s.UsesRegexp → db.config.regexp = true) :
    db.matchingRows name s.toPredicate.bound = .ok t.sorted := by
  obtain ⟨e, hcomposed, he, hmatching⟩ := exists_matchingRows_eq htable hvalues hfree s
  have hthere : ¬ (e.uses .regexp = true ∧ (!db.config.regexp) = true) := by
    rintro ⟨huses, hconfig⟩
    rw [hregexp (hcomposed.exists_regexp huses)] at hconfig
    cases hconfig
  rw [hmatching, Selector.check_eq_ok_iff.2 hfits, if_neg hthere, Table.keep,
    hcomposed.keep_of_settled_true (he.trans hsettled)]
  rfl

/-- If the empty groups leave a selector open, a row that the functions refuse is not passed
over. -/
theorem exists_matchingRows_eq_error (hsettled : s.settled = none) {q : Row} (hq : q ∈ t.rows)
    (hrefused : q.Refused) :
    ∃ err, db.matchingRows name s.toPredicate.bound = .error err ∧
      (err = .malformedJson ∨ ¬ s.Fits ∨ s.UsesRegexp ∨ s.HasLongPattern ∨
        ∃ path, err = .badPath path) := by
  obtain ⟨e, hcomposed, he, hmatching⟩ := exists_matchingRows_eq htable hvalues hfree s
  rw [hmatching]
  by_cases hfits : s.Fits
  · rw [Selector.check_eq_ok_iff.2 hfits]
    by_cases huses : e.uses .regexp ∧ !db.config.regexp
    · rw [if_pos huses]
      exact ⟨_, rfl, .inr (.inr (.inl (hcomposed.exists_regexp huses.1)))⟩
    · rw [if_neg huses]
      have hcolumn : Expr.Refused q.column := by
        rw [Expr.Refused, Row.column, if_pos rfl]
        exact hrefused
      obtain ⟨err, herr⟩ := hcomposed.keep_of_refused (he.trans hsettled) hq hcolumn
      rw [Table.keep, herr]
      refine ⟨err, rfl, ?_⟩
      rcases hcomposed.keep_eq_error herr with hkind | hkind | hkind | hkind
      · exact .inl hkind
      · exact .inr (.inr (.inr (.inr hkind)))
      · exact .inr (.inr (.inr (.inl hkind)))
      · exact .inr (.inr (.inl hkind))
  · cases hcheck : s.toPredicate.bound.check with
    | error err => exact ⟨err, rfl, .inr (.inl hfits)⟩
    | ok u => exact absurd (Selector.check_eq_ok_iff.1 hcheck) hfits

end

/-- If the engine speaks of malformed JSON, the first row is named that is no JSON text. -/
theorem searchError_eq (htable : db.table? name.text = some t)
    (hrows : Row.Increasing t.sorted) {r : Row}
    (hr : Row.IsFirst (fun r => r.isSuspect = true) t.rows r) (e : EngineError) :
    db.searchError name e =
      if e.mentionsMalformedJson then .corruptRecord r.key e.message else .engine e := by
  rw [searchError, htable, Option.bind_some, hr.sorted.find? hrows]

/-- What the engine is traced to cannot be read back. -/
theorem exists_of_searchError (htable : db.table? name.text = some t) {e : EngineError}
    {key reason : String} (h : db.searchError name e = .corruptRecord key reason) :
    ∃ r ∈ t.rows, r.key = key ∧ r.Unreadable := by
  rw [searchError, htable, Option.bind_some] at h
  split at h
  · split at h
    · next r hr =>
      cases h
      exact ⟨r, Table.mem_sorted.1 (List.mem_of_find?_eq_some hr), rfl,
        Row.unreadable_of_isSuspect (List.find?_some hr)⟩
    · cases h
  · cases h

/-- **Corrupt rows and searches**, in a table in which no key has two rows, whatever the rows hold.
Whatever a search names as corrupt cannot be read back. If the empty groups of the selector make it
true, all rows are read back, and the first one that cannot be is named. If they leave it open, a
row that the functions refuse makes the search fail; it names the first row that is no JSON text,
unless the engine has stopped at a limit, a malformed path or a regular expression. -/
theorem find_corrupt (hs : Selector.ofCollapsed d = .ok s) (htable : db.table? name.text = some t)
    (hvalues : t.shape.hasValues = true) (hrows : Row.Increasing t.sorted)
    (hfree : db.isLocked = false) :
    (∀ key reason, db.find name d = .error (.corruptRecord key reason) →
      ∃ r ∈ t.rows, r.key = key ∧ r.Unreadable) ∧
    (s.settled = some true → s.Fits → (s.UsesRegexp → db.config.regexp = true) →
      ∀ r, Row.IsFirst Row.Unreadable t.rows r →
        ∃ reason, db.find name d = .error (.corruptRecord r.key reason)) ∧
    (s.settled = none → ∀ q ∈ t.rows, q.Refused →
      (∀ ds, db.find name d ≠ .ok ds) ∧
        ∀ r, Row.IsFirst (fun r => r.isSuspect = true) t.rows r →
          (∃ reason, db.find name d = .error (.corruptRecord r.key reason)) ∨
            ∃ e : EngineError, e.mentionsMalformedJson = false ∧
              (¬ s.Fits ∨ s.UsesRegexp ∨ s.HasLongPattern ∨ ∃ path, e = .badPath path) ∧
              db.find name d = .error (.engine e)) := by
  rw [find_eq hs, findPredicate]
  refine ⟨fun key reason h => ?_, fun htrue hfits hregexp r hr => ?_,
    fun hopen q hq hrefused => ?_⟩
  · split at h
    · next kept hkept =>
      obtain ⟨r, hr, hunreadable, reason', hreason⟩ := exists_of_decodeRows h
      cases hreason
      exact ⟨r, subset_of_matchingRows htable hvalues hfree hkept hr, rfl, hunreadable⟩
    · exact exists_of_searchError htable (Except.error.inj h)
  · rw [matchingRows_of_settled_true htable hvalues hfree htrue hfits hregexp]
    exact hr.sorted.decodeRows hrows
  · obtain ⟨err, herr, hkind⟩ :=
      exists_matchingRows_eq_error htable hvalues hfree hopen hq hrefused
    rw [herr]
    refine ⟨fun ds h => (nomatch h), fun r hr => ?_⟩
    simp only [searchError_eq htable hrows hr err]
    by_cases hmentions : err.mentionsMalformedJson = true
    · rw [if_pos hmentions]
      exact .inl ⟨err.message, rfl⟩
    · rw [if_neg hmentions]
      refine .inr ⟨err, eq_false_of_ne_true hmentions, ?_, rfl⟩
      rcases hkind with rfl | hkind
      · exact absurd (by decide +kernel) hmentions
      · exact hkind

/-- There are a document, a number and a text that is no document. A search without conditions names
the number, which is no text; so does one that compares a field and comes upon the text, if it does
not fail at its path. -/
theorem find_corrupt_text :
    ∃ db : Database, db.tables = [⟨"docs", .untyped,
        [⟨"a", .text "\x7b\"ok\":true\x7d"⟩, ⟨"b", .integer 7⟩, ⟨"c", .text "\x7boops"⟩]⟩] ∧
      (∃ reason, db.find ⟨"docs", by decide⟩ (.object []) = .error (.corruptRecord "b" reason)) ∧
      (∀ ds, db.find ⟨"docs", by decide⟩ (.object [("$.ok", .bool true)]) ≠ .ok ds) ∧
      ((∃ reason, db.find ⟨"docs", by decide⟩ (.object [("$.ok", .bool true)]) =
          .error (.corruptRecord "b" reason)) ∨
        ∃ path, db.find ⟨"docs", by decide⟩ (.object [("$.ok", .bool true)]) =
          .error (.engine (.badPath path))) := by
  let a : Row := ⟨"a", .text "\x7b\"ok\":true\x7d"⟩
  let b : Row := ⟨"b", .integer 7⟩
  let c : Row := ⟨"c", .text "\x7boops"⟩
  have hrows : Row.Increasing [a, b, c] := by
    have hab : a.key < b.key := compareText_eq_lt_iff.1 (by decide)
    have hac : a.key < c.key := compareText_eq_lt_iff.1 (by decide)
    have hbc : b.key < c.key := compareText_eq_lt_iff.1 (by decide)
    refine List.pairwise_cons.2 ⟨?_, List.pairwise_pair.2 hbc⟩
    exact List.forall_mem_cons.2 ⟨hab, List.forall_mem_singleton.2 hac⟩
  have hfirst {Kind : Row → Prop} (ha : ¬ Kind a) (hb : Kind b) :
      Row.IsFirst Kind [a, b, c] b := by
    refine ⟨by simp, hb, fun s hs hkind => ?_⟩
    simp only [List.mem_cons, List.not_mem_nil, or_false] at hs
    rcases hs with rfl | rfl | rfl
    · exact absurd hkind ha
    · exact le_rfl
    · exact (compareText_eq_lt_iff.1 (by decide)).le
  have hreadable : ¬ a.Unreadable := fun h => h (.object [("ok", .bool true)]) (by decide +kernel)
  have hnumber : b.Unreadable := Row.unreadable_of_isSuspect rfl
  have hopen : Selector.settled [.equals "$.ok" (.bool true)] = none := by
    simp [Selector.settled, Selector.formula, Clause.formula, Formula.settled, kleeneAnd]
  have htrue : Selector.settled [] = some true := by
    simp [Selector.settled, Selector.formula, Formula.settled]
  have hempty : Selector.Fits [] := Selector.check_eq_ok_iff.1 (by decide +kernel)
  have hfits : Selector.Fits [.equals "$.ok" (.bool true)] :=
    Selector.check_eq_ok_iff.1 (by decide +kernel)
  have hregexp : ¬ Selector.UsesRegexp [.equals "$.ok" (.bool true)] := by
    simp [Selector.UsesRegexp, Selector.formula, Clause.formula, Formula.fields]
  have hpattern : ¬ Selector.HasLongPattern [.equals "$.ok" (.bool true)] := by
    simp [Selector.HasLongPattern, Expr.HasLongPattern, Selector.formula, Clause.formula,
      Formula.fields]
  let t : Table := ⟨"docs", .untyped, [a, b, c]⟩
  let db : Database := ⟨default, false, [t], false⟩
  have htable : db.table? "docs" = some t := List.find?_cons_of_pos (by decide)
  refine ⟨db, rfl, ?_, ?_⟩
  · have h := @find_corrupt db ⟨"docs", by decide⟩ t (.object []) [] rfl htable rfl hrows rfl
    exact h.2.1 htrue hempty (fun _ => rfl) b (hfirst hreadable hnumber)
  · have h := @find_corrupt db ⟨"docs", by decide⟩ t (.object [("$.ok", .bool true)])
      [.equals "$.ok" (.bool true)] rfl htable rfl hrows rfl
    have hc : c ∈ t.rows := by simp [t]
    obtain ⟨hfails, hnames⟩ := h.2.2 hopen c hc rfl
    refine ⟨hfails, (hnames b (hfirst (by decide +kernel) rfl)).imp_right ?_⟩
    rintro ⟨e, -, hpast | huses | hlong | ⟨path, rfl⟩, he⟩
    · exact absurd hfits hpast
    · exact absurd huses hregexp
    · exact absurd hlong hpattern
    · exact ⟨path, he⟩

/-- Nothing at all in place of a document counts as null: a search that compares a field leaves the
row out, where reading it back reports it as corrupt. An empty group of which one selector is to
hold leaves out a text that is no document. -/
theorem find_corrupt_left_out :
    (find ⟨default, false, [⟨"docs", .documents, [⟨"a", .null⟩,
        ⟨"b", .text "\x7b\"ok\":true\x7d"⟩]⟩], false⟩ ⟨"docs", by decide⟩
        (.object [("$.ok", .bool true)]) = .ok [.object [("ok", .bool true)]] ∧
      get ⟨default, false, [⟨"docs", .documents, [⟨"a", .null⟩,
        ⟨"b", .text "\x7b\"ok\":true\x7d"⟩]⟩], false⟩ ⟨"docs", by decide⟩ "a" =
        .error (.corruptRecord "a" "expected TEXT column, got Null")) ∧
      find ⟨default, false, [⟨"docs", .documents, [⟨"a", .text "\x7boops"⟩]⟩], false⟩
        ⟨"docs", by decide⟩ (.object [("$or", .array [])]) = .ok [] := by
  decide +kernel

end Database

end DocSelect

import MqlMySql.Spec.Buffers
import MqlMySql.Spec.Server

/-!
# The trip of a text to the server and back

A well-formed wide string without zeros reaches the server as its UTF-8 encoding or is not sent. A column
which holds that encoding is read back as the string or is refused with the number `-6`. The lengths compared
differ: bytes with their terminator have to be fewer than the array `Query` holds, units with theirs may fill
the array `Value`.
-/

namespace MqlMySql

open Library

variable {σ : Type}

/-- What was handed to `mysql_real_query`, most recent first. -/
def World.queriesSent (w : World σ) : List (Option Mysql × List UInt8 × ℕ) :=
  w.calls.filterMap fun
    | .realQuery mysql query length => some (mysql, query, length)
    | _ => none

variable (host : Host σ)

/-- A column of the current row of an open cursor holds the bytes. -/
def ColumnHolds (w : World σ) (p : ℤ) (f : ℕ) (bytes : List UInt8) : Prop :=
  ∃ k row, w.dll.openCursor p = some k ∧ (w.dll.cursors k).currentRow = some row ∧
    f < host.mysqlNumFields (w.recordSet k) w.library ∧ host.rowField row f w.library = some bytes

/-- The string `s` and its encoding `bytes` are converted into each other or refused, inside the arrays. The
arrays hold anything beforehand. -/
structure TextSurvives (s : WStr) (bytes : List UInt8) : Prop where
  /-- The query is handed over as the encoding with its length, exactly when there is a connection id and the
  encoding fits; otherwise the library is not called at all. -/
  sent : ∀ query p w b w', (mySqlExecuteIn host query p s).run w = .ok (b, w') →
    if p ≠ -1 ∧ bytes.length + 1 < maxQuerySize then
      ∃ mysql, w'.queriesSent = (mysql, bytes, bytes.length) :: w.queriesSent
    else b = false ∧ w'.calls = w.calls
  /-- The column is read as the string exactly when the string fits, and otherwise refused. -/
  read : ∀ value p f w, ColumnHolds host w p f bytes →
    ∃ r w', (cMySqlGetRowFieldIn host value p f).run w = .ok (r, w') ∧
      if s.length + 1 ≤ maxFieldValue then r = s ∧ cGetCursorErrorNumber p w'.dll = 0
      else r = [] ∧ cGetCursorErrorNumber p w'.dll = -6
  /-- Nothing is written past the end of `Query`, and it is terminated when it is read. -/
  queryInside : ∀ query p w, (mySqlExecuteIn host query p s).run w ≠ .error .bufferOverrun
  /-- Nothing is written past the end of `Value`, and it is terminated when it is read. -/
  valueInside : ∀ value p f w, (cMySqlGetRowFieldIn host value p f).run w ≠ .error .bufferOverrun
  /-- What was sent and is stored as it was sent is read back unchanged or refused. -/
  back : ∀ query p w b w' mysql sent n, (mySqlExecuteIn host query p s).run w = .ok (b, w') →
    w'.queriesSent = (mysql, sent, n) :: w.queriesSent →
      ∀ value p' f v r v', ColumnHolds host v p' f sent →
        (cMySqlGetRowFieldIn host value p' f).run v = .ok (r, v') →
          cGetCursorErrorNumber p' v'.dll = 0 → r = s

variable {host} {w w' : World σ} {s : WStr} {bytes : List UInt8}

/-- Executing hands over the bytes before the terminator, or nothing. -/
theorem QueryOutcome.queriesSent {p : ℤ} {b : Bool} (h : QueryOutcome host p s w b w') :
    if p ≠ -1 ∧ QueryFits s then
      ∃ mysql, w'.queriesSent = (mysql, sentQuery s, (sentQuery s).length) :: w.queriesSent
    else b = false ∧ w'.calls = w.calls := by
  have hval : ∀ i : Fin maxConnections, (i.val : ℤ) ≠ -1 := by
    intro i
    omega
  cases h with
  | noConnection hp =>
    rw [if_neg fun hfits => hfits.1 hp]
    exact ⟨rfl, rfl⟩
  | tooBig hp big =>
    rw [if_neg fun hfits => big hfits.2]
    exact ⟨rfl, rfl⟩
  | pending i hp fits positive =>
    subst hp
    rw [if_pos ⟨hval i, fits⟩]
    exact ⟨w.handle i, rfl⟩
  | executed i hp fits quiet =>
    subst hp
    rw [if_pos ⟨hval i, fits⟩]
    exact ⟨w.handle i, rfl⟩

/-- A column of the current row is read as its conversion, or refused as too big. -/
theorem getRowField_of_columnHolds {p : ℤ} {f : ℕ} (h : ColumnHolds host w p f bytes) :
    ∃ r w', (cMySqlGetRowField host p f).run w = .ok (r, w') ∧
      if (multiByteToWideChar (some bytes)).length ≤ maxFieldValue then
        r = wideString (multiByteToWideChar (some bytes)) ∧ cGetCursorErrorNumber p w'.dll = 0
      else r = [] ∧ cGetCursorErrorNumber p w'.dll = -6 := by
  obtain ⟨k, row, hopen, hrow, inside, hcell⟩ := h
  obtain ⟨rfl, hid⟩ := openCursor_eq_some_iff.mp hopen
  have hnumber (d : Dll) (hd : (d.cursors k).id ≠ -1) :
      cGetCursorErrorNumber k.val d = (d.cursors k).cursorErrorNumber :=
    cGetCursorErrorNumber_of_open (by rw [openCursor_val, if_neg hd])
  by_cases fits : (multiByteToWideChar (some bytes)).length ≤ maxFieldValue
  · simp [cMySqlGetRowField, hopen, hrow, inside, hcell, fits, hnumber, hid]
  · simp [cMySqlGetRowField, hopen, hrow, inside, hcell, fits, hnumber, hid]

/-- `MySqlExecute` faults only by its connection id. -/
theorem mySqlExecute_inside (p : ℤ) : (mySqlExecute host p s).run w ≠ .error .bufferOverrun := by
  by_cases hp : p = -1
  · simp [mySqlExecute, hp]
  by_cases fits : (wideCharToMultiByte s).length < maxQuerySize
  · cases hi : slotIndex maxConnections p with
    | none => simp [mySqlExecute, hp, fits, run_connectionAt_none hi]
    | some i =>
      obtain rfl := slotIndex_eq_some_iff.mp hi
      by_cases positive : 0 < w.dll.mySqlErrorNumber
      · simp [mySqlExecute, hp, fits, positive]
      · simp [mySqlExecute, hp, fits, positive]
  · simp [mySqlExecute, hp, fits]

/-- `cMySqlGetRowField` faults only by a null row. -/
theorem cMySqlGetRowField_inside (p : ℤ) (f : ℕ) :
    (cMySqlGetRowField host p f).run w ≠ .error .bufferOverrun := by
  cases hopen : w.dll.openCursor p with
  | none => simp [cMySqlGetRowField, hopen]
  | some k =>
    obtain ⟨rfl, hid⟩ := openCursor_eq_some_iff.mp hopen
    by_cases inside : f < host.mysqlNumFields (w.dll.cursors k).recordSet w.library
    · cases hrow : (w.dll.cursors k).currentRow with
      | none => simp [cMySqlGetRowField, hopen, inside, hrow]
      | some row =>
        by_cases fits : (multiByteToWideChar (host.rowField row f w.library)).length ≤ maxFieldValue
        · simp [cMySqlGetRowField, hopen, inside, hrow, fits]
        · simp [cMySqlGetRowField, hopen, inside, hrow, fits]
    · simp [cMySqlGetRowField, hopen, inside]

/-- The query text is the encoding of a string without zeros. -/
theorem sentQuery_utf16 {text : List Char} (nonzero : 0 ∉ utf16 text) :
    sentQuery (utf16 text) = utf8 text := by
  have hbytes : 0 ∉ utf8 text := fun h => nonzero ((zero_mem_utf8_iff text).mp h)
  rw [sentQuery, wideCharToMultiByte_utf16, cString, Buffer.takeWhile_terminated hbytes]

theorem queryFits_utf16_iff (text : List Char) :
    QueryFits (utf16 text) ↔ (utf8 text).length + 1 < maxQuerySize := by
  rw [QueryFits, wideCharToMultiByte_utf16, List.length_append, List.length_singleton]

/-- The column text is the string. -/
theorem wideString_utf8 {text : List Char} (nonzero : 0 ∉ utf16 text) :
    wideString (multiByteToWideChar (some (utf8 text))) = utf16 text := by
  have hbytes : 0 ∉ utf8 text := fun h => nonzero ((zero_mem_utf8_iff text).mp h)
  rw [multiByteToWideChar_utf8 hbytes, wideString, Buffer.takeWhile_terminated nonzero]

variable (host)

/-- The encoding is what is sent, or nothing is. -/
theorem sent_utf16 {text : List Char} (nonzero : 0 ∉ utf16 text) {query : Buffer UInt8 maxQuerySize}
    {p : ℤ} {b : Bool} (h : (mySqlExecuteIn host query p (utf16 text)).run w = .ok (b, w')) :
    if p ≠ -1 ∧ (utf8 text).length + 1 < maxQuerySize then
      ∃ mysql, w'.queriesSent = (mysql, utf8 text, (utf8 text).length) :: w.queriesSent
    else b = false ∧ w'.calls = w.calls := by
  rw [mySqlExecuteIn_eq] at h
  have hsent := (mySqlExecute_outcome host h).queriesSent
  simpa only [sentQuery_utf16 nonzero, queryFits_utf16_iff] using hsent

/-- The string is what is read, or nothing is. -/
theorem read_utf8 {text : List Char} (nonzero : 0 ∉ utf16 text) (value : Buffer WChar maxFieldValue) {p : ℤ}
    {f : ℕ} (h : ColumnHolds host w p f (utf8 text)) :
    ∃ r w', (cMySqlGetRowFieldIn host value p f).run w = .ok (r, w') ∧
      if (utf16 text).length + 1 ≤ maxFieldValue then
        r = utf16 text ∧ cGetCursorErrorNumber p w'.dll = 0
      else r = [] ∧ cGetCursorErrorNumber p w'.dll = -6 := by
  have hbytes : 0 ∉ utf8 text := fun h => nonzero ((zero_mem_utf8_iff text).mp h)
  have hlength : (multiByteToWideChar (some (utf8 text))).length = (utf16 text).length + 1 := by
    rw [multiByteToWideChar_utf8 hbytes, List.length_append, List.length_singleton]
  have hread := getRowField_of_columnHolds h
  rwa [hlength, wideString_utf8 nonzero, ← cMySqlGetRowFieldIn_eq host value] at hread

/-- The encoding which was sent, when a column holds it, is read back as the string or refused. -/
theorem back_utf16 {text : List Char} (nonzero : 0 ∉ utf16 text) {query : Buffer UInt8 maxQuerySize} {p : ℤ}
    {b : Bool} {mysql : Option Mysql} {sent : List UInt8} {n : ℕ}
    (h : (mySqlExecuteIn host query p (utf16 text)).run w = .ok (b, w'))
    (hsent : w'.queriesSent = (mysql, sent, n) :: w.queriesSent) {value : Buffer WChar maxFieldValue} {p' : ℤ}
    {f : ℕ} {v v' : World σ} {r : WStr} (holds : ColumnHolds host v p' f sent)
    (hread : (cMySqlGetRowFieldIn host value p' f).run v = .ok (r, v'))
    (quiet : cGetCursorErrorNumber p' v'.dll = 0) : r = utf16 text := by
  have hbytes : sent = utf8 text := by
    have houtcome := sent_utf16 host nonzero h
    split at houtcome
    · obtain ⟨mysql', hqueries⟩ := houtcome
      rw [hsent, List.cons.injEq, Prod.mk.injEq, Prod.mk.injEq] at hqueries
      exact hqueries.1.2.1
    · have hsame : w'.queriesSent = w.queriesSent := by
        rw [World.queriesSent, houtcome.2, ← World.queriesSent]
      rw [hsent] at hsame
      exact absurd hsame (List.cons_ne_self _ _)
  subst hbytes
  obtain ⟨r', w'', hrun, hr'⟩ := read_utf8 host nonzero value holds
  rw [hread, Except.ok.injEq, Prod.mk.injEq] at hrun
  obtain ⟨rfl, rfl⟩ := hrun
  split at hr'
  · exact hr'.1
  · rw [hr'.2] at quiet
    cases quiet

/-- A well-formed string without zeros survives, with the UTF-8 encoding of the text that it encodes. -/
theorem text_survives {s : WStr} (wf : WellFormedUtf16 s) (nonzero : 0 ∉ s) :
    ∃ text, utf16 text = s ∧ TextSurvives host s (utf8 text) := by
  have hs := wf.utf16_scalars
  rw [← hs] at nonzero ⊢
  refine ⟨utf16Scalars s, rfl, ?_⟩
  constructor
  · intro query p w b w' h
    exact sent_utf16 host nonzero h
  · intro value p f w h
    exact read_utf8 host nonzero value h
  · intro query p w
    rw [mySqlExecuteIn_eq]
    exact mySqlExecute_inside p
  · intro value p f w
    rw [cMySqlGetRowFieldIn_eq]
    exact cMySqlGetRowField_inside p f
  · intro query p w b w' mysql sent n h hsent value p' f v r v' holds hread quiet
    exact back_utf16 host nonzero h hsent holds hread quiet

/-- Characters of one to four bytes, the last of them a surrogate pair. -/
theorem text_survives_sample :
    TextSurvives scriptedHost [0x41, 0xE9, 0x20AC, 0xD83D, 0xDE00]
      [0x41, 0xC3, 0xA9, 0xE2, 0x82, 0xAC, 0xF0, 0x9F, 0x98, 0x80] := by
  have wf : WellFormedUtf16 [0x41, 0xE9, 0x20AC, 0xD83D, 0xDE00] :=
    .unit rfl rfl (.unit rfl rfl (.unit rfl rfl (.pair rfl rfl .nil)))
  obtain ⟨text, htext, survives⟩ := text_survives scriptedHost wf (by decide)
  have hchars : text = [Char.ofNat 0x41, Char.ofNat 0xE9, Char.ofNat 0x20AC, Char.ofNat 0x1F600] := by
    rw [← utf16Scalars_utf16 text, htext]
    decide
  rw [hchars] at survives
  exact survives

end MqlMySql

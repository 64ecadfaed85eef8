/-
Copies in files.

A location that is not on the web names a file, by its path or by its path behind `file://`.
The file is read as a whole or not at all, and if it is not, the conversion fails with the error of
reading it, in either mode.  Whether `file://` is there shows in the provenance only.

* **`Source.access_copy_append`**, **`Source.access_copy_of_not_begins`** — the file that a location
  names;
* **`World.readText_eq_error_iff`** — which files are not read, and why;
* **`convertSource_agree`** — copies that are read alike are converted alike;
* **`copies_read_whole_or_not`** — reading and converting a copy in a file.
-/
import HaxeTypedefs.Proofs.Encoding
import HaxeTypedefs.Proofs.Provenance

namespace HaxeTypedefs

/-! ### Locations -/

/-- The second text begins with the first one. -/
def Begins (beginning text : String) : Prop :=
  ∃ rest, text = beginning ++ rest

theorem begins_iff {beginning text : String} :
    Begins beginning text ↔ beginning.toList <+: text.toList := by
  constructor
  · rintro ⟨rest, rfl⟩
    exact ⟨rest.toList, String.toList_append.symm⟩
  · rintro ⟨rest, h⟩
    refine ⟨String.ofList rest, String.toList_inj.mp ?_⟩
    rw [String.toList_append, String.toList_ofList, h]

instance (beginning text : String) : Decidable (Begins beginning text) :=
  decidable_of_iff _ begins_iff.symm

theorem isWebLocation_iff {location : String} :
    isWebLocation location = true ↔ Begins "http://" location ∨ Begins "https://" location := by
  rw [isWebLocation, Bool.or_eq_true, List.isPrefixOf_iff_prefix, List.isPrefixOf_iff_prefix,
    begins_iff, begins_iff]

theorem dropStart_append (beginning rest : String) :
    dropStart beginning (beginning ++ rest) = rest := by
  have h : beginning.toList.isPrefixOf? (beginning ++ rest).toList = some rest.toList := by
    rw [List.isPrefixOf?_eq_some_iff_append_eq, String.toList_append]
  rw [dropStart, h]
  exact String.ofList_toList

theorem dropStart_of_not_begins {beginning text : String} (h : ¬ Begins beginning text) :
    dropStart beginning text = text := by
  unfold dropStart
  split
  · next rest hrest =>
    rw [List.isPrefixOf?_eq_some_iff_append_eq] at hrest
    exact absurd (begins_iff.mpr ⟨rest, hrest⟩) h
  · rfl

namespace Source

/-- What stands behind `file://` names the file. -/
theorem access_copy_append (path : String) :
    (copy ("file://" ++ path)).access = .file path := by
  have hweb : isWebLocation ("file://" ++ path) = false := by
    rw [isWebLocation, String.toList_append]
    rfl
  rw [access, hweb, dropStart_append]
  rfl

/-- Any other location that is not on the web is the path itself. -/
theorem access_copy_of_not_begins {location : String} (hfile : ¬ Begins "file://" location)
    (hhttp : ¬ Begins "http://" location) (hhttps : ¬ Begins "https://" location) :
    (copy location).access = .file location := by
  have hweb : isWebLocation location = false := by
    rw [← Bool.not_eq_true, isWebLocation_iff]
    exact not_or.mpr ⟨hhttp, hhttps⟩
  rw [access, hweb, dropStart_of_not_begins hfile]
  rfl

end Source

/-! ### Reading -/

theorem World.readText_eq_error_iff {w : World} {path : String} {reason : ReadError} :
    w.readText path = .error reason ↔ w.files path = .error reason ∨
      reason = .notUtf8 ∧ ∃ bytes, w.files path = .ok bytes ∧
        ¬ WellFormedBytes bytes.data.toList := by
  unfold readText
  cases w.files path with
  | error reason' => simp
  | ok bytes => simp [decodeText_eq_error_iff]

namespace Source

variable {w : World} {s : Source}

theorem fetch_eq_error_iff {path : String} {error : FetchError} (h : s.access = .file path) :
    s.fetch w = .error error ↔ ∃ reason, error = .file path reason ∧
      w.readText path = .error reason := by
  simp only [fetch, h]
  cases w.readText path with
  | error reason => simp [Except.mapError, eq_comm]
  | ok text => simp [Except.mapError]

/-- What is read of a source depends on the way to it only. -/
theorem fetch_congr {s' : Source} (h : s.access = s'.access) : s.fetch w = s'.fetch w := by
  rw [fetch, fetch, h]

end Source

/-- Reading and converting the copy at a location comes down to the file at a path. -/
structure ReadsWhole (w : World) (location path : String) : Prop where
  /-- The whole text of the file is read exactly if its bytes are the encoding of that text. -/
  ok_iff : ∀ text, (Source.copy location).fetch w = .ok text ↔
    ∃ bytes, w.files path = .ok bytes ∧ Encodes bytes text
  /-- All else is an error with the path and the reason. -/
  error_iff : ∀ error, (Source.copy location).fetch w = .error error ↔
    ∃ reason, error = .file path reason ∧ (w.files path = .error reason ∨
      reason = .notUtf8 ∧ ∃ bytes, w.files path = .ok bytes ∧ ¬ WellFormedBytes bytes.data.toList)
  /-- What is read is converted, with the location as it is for its provenance. -/
  convert_ok : ∀ text mode, (Source.copy location).fetch w = .ok text →
    convertSource mode w (.copy location) = convert mode text location
  /-- The conversion fails with the same error, in either mode. -/
  convert_error : ∀ error mode, (Source.copy location).fetch w = .error error →
    convertSource mode w (.copy location) = .error (.fetch error)

theorem readsWhole_of_access {w : World} {location path : String}
    (h : (Source.copy location).access = .file path) : ReadsWhole w location path where
  ok_iff text := by
    simp only [Source.fetch_eq_ok_iff h, encodes_iff, exists_eq_right]
  error_iff error := by
    simp only [Source.fetch_eq_error_iff h, World.readText_eq_error_iff]
  convert_ok text mode hok := by
    have hurl : (Source.copy location).url = location := rfl
    rw [convertSource, hok, hurl]
  convert_error error mode herror := by
    rw [convertSource, herror]

/-! ### Provenance -/

/-- Both conversions fail alike, or they make modules that differ in the provenance only. -/
def AgreeButProvenance (u u' : String) (x x' : Except Failure String) : Prop :=
  (∃ failure, x = .error failure ∧ x' = .error failure) ∨
    ∃ above below, x = .ok (above ++ "/* based on: " ++ u ++ " */\n" ++ below) ∧
      x' = .ok (above ++ "/* based on: " ++ u' ++ " */\n" ++ below)

theorem exists_assemble_eq (body : String) : ∃ above below, ∀ provenance,
    assemble provenance body = above ++ "/* based on: " ++ provenance ++ " */\n" ++ below := by
  refine ⟨String.ofList (masthead ++ "\n".toList),
    String.ofList (prelude ++ (body.toList ++ epilogue.toList)), fun provenance => ?_⟩
  have hclose : " */\n".toList = " */".toList ++ "\n".toList := by decide
  refine String.toList_inj.mp ?_
  rw [toList_assemble, provenanceLine]
  simp only [String.toList_append, String.toList_ofList, List.append_assoc, hclose]

/-- Two conversions of one text. -/
theorem convert_agree (mode : Mode) (text u u' : String) :
    AgreeButProvenance u u' (convert mode text u) (convert mode text u') := by
  unfold convert Run.finish
  split
  · exact .inl ⟨_, rfl, rfl⟩
  · obtain ⟨above, below, h⟩ := exists_assemble_eq (String.ofList (Run.of text.toList).text)
    exact .inr ⟨above, below, by rw [h], by rw [h]⟩

/-- Two copies that are read alike. -/
theorem convertSource_agree (mode : Mode) {w : World} {location location' : String}
    (h : (Source.copy location).fetch w = (Source.copy location').fetch w) :
    AgreeButProvenance location location' (convertSource mode w (.copy location))
      (convertSource mode w (.copy location')) := by
  unfold convertSource
  rw [← h]
  cases (Source.copy location).fetch w with
  | error reason => exact .inl ⟨.fetch reason, rfl, rfl⟩
  | ok text => exact convert_agree mode text location location'

/-! ### Copies in files -/

/-- A copy that is not on the web is read from the file whose path stands behind one `file://`, or is
the location itself.  It is read as a whole, or it is an error that the conversion fails with as well.
A path with `file://` before it is read like the path alone, and converted to a module that differs from
that of the path in the provenance only. -/
theorem copies_read_whole_or_not (w : World) :
    (∀ location, ¬ Begins "http://" location → ¬ Begins "https://" location →
      (∀ path, location = "file://" ++ path → ReadsWhole w location path) ∧
        (¬ Begins "file://" location → ReadsWhole w location location)) ∧
    ∀ path, ¬ Begins "file://" path → ¬ Begins "http://" path → ¬ Begins "https://" path →
      (Source.copy path).fetch w = (Source.copy ("file://" ++ path)).fetch w ∧
      ∀ mode, AgreeButProvenance path ("file://" ++ path) (convertSource mode w (.copy path))
        (convertSource mode w (.copy ("file://" ++ path))) := by
  constructor
  · intro location hhttp hhttps
    constructor
    · rintro path rfl
      exact readsWhole_of_access (Source.access_copy_append path)
    · intro hfile
      exact readsWhole_of_access (Source.access_copy_of_not_begins hfile hhttp hhttps)
  · intro path hfile hhttp hhttps
    have haccess : (Source.copy path).access = (Source.copy ("file://" ++ path)).access :=
      (Source.access_copy_of_not_begins hfile hhttp hhttps).trans (Source.access_copy_append path).symm
    have hfetch := Source.fetch_congr (w := w) haccess
    exact ⟨hfetch, fun mode => convertSource_agree mode hfetch⟩

/-- A world with a file that begins with a byte order mark and ends with a carriage return and a line
feed, and with three files that are no texts. -/
def World.mixed : World where
  files
    | "ast.js" => .ok ⟨#[0xEF, 0xBB, 0xBF, 0x61, 0x0D, 0x0A]⟩
    | "long.js" => .ok ⟨#[0xC0, 0x80]⟩
    | "surrogate.js" => .ok ⟨#[0xED, 0xA0, 0x80]⟩
    | "cut.js" => .ok ⟨#[0xE2, 0x82]⟩
    | _ => .error .notFound
  web _ := .error (.status 404)

theorem copies_read_whole_or_not_of_mixed :
    (Source.copy "file://ast.js").fetch .mixed = .ok "\uFEFFa\r\n" ∧
    (∀ path ∈ ["long.js", "surrogate.js", "cut.js"],
      (Source.copy path).fetch .mixed = .error (.file path .notUtf8)) ∧
    (∀ mode, convertSource mode .mixed (.copy "file://none.js") =
      .error (.fetch (.file "none.js" .notFound))) ∧
    (Source.copy "ast.js").fetch .mixed = (Source.copy "file://ast.js").fetch .mixed := by
  obtain ⟨hreads, hsame⟩ := copies_read_whole_or_not .mixed
  refine ⟨?_, ?_, ?_, ?_⟩
  · have hwhole := (hreads "file://ast.js" (by decide) (by decide)).1 "ast.js" rfl
    refine (hwhole.ok_iff _).mpr ⟨_, rfl, ?_⟩
    decide
  · intro path hpath
    have hplain : ∀ path ∈ ["long.js", "surrogate.js", "cut.js"],
        ¬ Begins "http://" path ∧ ¬ Begins "https://" path ∧ ¬ Begins "file://" path := by
      decide
    obtain ⟨hhttp, hhttps, hfile⟩ := hplain path hpath
    have hwhole := (hreads path hhttp hhttps).2 hfile
    refine (hwhole.error_iff _).mpr ⟨.notUtf8, rfl, .inr ⟨rfl, ?_⟩⟩
    simp only [List.mem_cons, List.not_mem_nil, or_false] at hpath
    rcases hpath with rfl | rfl | rfl
    all_goals exact ⟨_, rfl, by decide +kernel⟩
  · intro mode
    have hwhole := (hreads "file://none.js" (by decide) (by decide)).1 "none.js" rfl
    exact hwhole.convert_error _ mode ((hwhole.error_iff _).mpr ⟨.notFound, rfl, .inl rfl⟩)
  · exact (hsame "ast.js" (by decide) (by decide) (by decide)).1

end HaxeTypedefs

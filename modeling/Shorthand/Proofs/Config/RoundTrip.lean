import Shorthand.Proofs.Config.Reading
import Shorthand.Proofs.Config.Written
import Shorthand.Proofs.Json.Commentless
/-!
A configuration that was read and written is read again as it was. Only the one shape of bucket that
looks like a definition comes back as one.
-/
set_option autoImplicit false

namespace Shorthand

open Json

variable {α : Type}

theorem commentless_writeMap {write : α → List Char} {m : SortedMap α}
    (h : ∀ e ∈ m.entries, Commentless (write e.2)) :
    Commentless (writeMap write m) := commentless_writeObject (List.forall_mem_map.2 h)

theorem commentless_writeOption {write : α → List Char} {o : Option α}
    (h : ∀ a, o = some a → Commentless (write a)) :
    Commentless (writeOption write o) := by
  cases o with
  | none => exact (Fits.null : Fits Number.IsWhole 0 .null).commentless
  | some a => exact h a rfl

theorem PackageEntry.commentless_write (e : PackageEntry) : Commentless e.write := by
  have hfits : Fits Number.IsWhole 2 e.toValue := e.fits_toValue
  exact e.write_toValue ▸ hfits.commentless

theorem Targets.commentless_write (t : Targets) : Commentless t.write := by
  have hmap (o : Option (SortedMap String)) : Commentless (writeOption (writeMap writeString) o) :=
    commentless_writeOption fun m _ => commentless_writeMap fun e _ => commentless_writeString e.2
  exact commentless_writeObject (by simp [hmap])

theorem FeatureTarget.commentless_write (t : FeatureTarget) : Commentless t.write := by
  refine commentless_writeObject (List.forall_mem_cons.2 ⟨commentless_writeString t.target, ?_⟩)
  exact List.forall_mem_map.2 fun variant _ => commentless_writeString variant

theorem FlagEntry.IsKept.commentless {e : FlagEntry} (h : e.IsKept) : Commentless e.write := by
  have hfits : Fits Number.IsWhole sectionDepth e.toValue :=
    FlagEntry.fits_toValue fun f hf => (h f hf).2
  exact e.write_toValue ▸ hfits.commentless

theorem Config.commentless_write {c : Config}
    (h : ∀ kind, ∀ e ∈ (c.flagsOf kind).entries, e.2.IsKept) :
    Commentless c.write := by
  have hflags (kind : FlagKind) : Commentless (writeMap FlagEntry.write (c.flagsOf kind)) :=
    commentless_writeMap fun e he => (h kind e he).commentless
  refine commentless_writeObject ?_
  simp only [List.forall_mem_cons]
  exact ⟨commentless_writeMap fun e _ => e.2.commentless_write,
    commentless_writeOption fun t _ => t.commentless_write,
    commentless_writeMap fun e _ => e.2.commentless_write,
    hflags .expandable, hflags .contextAware, hflags .internal, hflags .environment,
    commentless_writeMap fun e _ => commentless_writeString e.2, by simp⟩

def FlagEntry.holdsFloat : FlagEntry → Bool
  | literal _ => false
  | detailed flag => entriesHoldFloat flag.defaults

theorem FlagEntry.WasRead.isKept {e : FlagEntry} (h : e.WasRead) (hfloat : e.holdsFloat = false) :
    e.IsKept := by
  rintro f rfl
  exact ⟨(h f rfl).1, (h f rfl).2.whole hfloat⟩

theorem PackageEntry.reread_eq_self_iff {e : PackageEntry} :
    e.reread = e ↔ ∀ m, e = bucket m → m.keys ≠ ["default"] := by
  cases e with
  | structured p => simp [reread]
  | direct project => simp [reread]
  | bucket m =>
    by_cases hkeys : m.keys = ["default"]
    · simp [reread, hkeys]
    · simp [reread, hkeys]

namespace Config

/-- Whether a default of a flag holds a floating point number. -/
def holdsFloat (c : Config) : Bool :=
  [FlagKind.expandable, .contextAware, .internal, .environment].any fun kind =>
    (c.flagsOf kind).values.any FlagEntry.holdsFloat

theorem reread_eq_self_iff {c : Config} :
    c.reread = c ↔ ∀ e ∈ c.packages.values, ∀ m, e = .bucket m → m.keys ≠ ["default"] := by
  have hmap : c.reread = c ↔ ∀ e ∈ c.packages.entries, (e.1, e.2.reread) = id e := by
    rw [← List.map_inj_left, List.map_id]
    constructor
    · exact congrArg fun c : Config => c.packages.entries
    · intro h
      have hpackages : c.packages.map PackageEntry.reread = c.packages := SortedMap.ext h
      rw [reread, hpackages]
  simp only [hmap, id, Prod.ext_iff, true_and, PackageEntry.reread_eq_self_iff, SortedMap.values,
    List.forall_mem_map]

theorem parse_written {c : Config} (hread : c.WasRead) (hfloat : c.holdsFloat = false) :
    parse c.toText = .ok c.reread := by
  have hkept (kind : FlagKind) (e : String × FlagEntry) (he : e ∈ (c.flagsOf kind).entries) :
      e.2.IsKept := by
    refine (hread.flags kind e he).isKept ?_
    have hall : ∀ kind, ∀ e ∈ (c.flagsOf kind).values, e.holdsFloat = false := by
      intro kind
      cases kind <;> simp_all [holdsFloat]
    exact hall kind e.2 (List.mem_map_of_mem he)
  have hplain : uncommented .code c.write = c.write := by
    simpa [uncommented] using commentless_write hkept []
  rw [parse_eq_ok_iff, toText, String.toList_ofList, hplain]
  exact ofJson_write hread.packages hkept

/-- What was read is read again as it was, but for buckets with no key but that of the default. -/
theorem parse_toText {text : String} {c : Config} (h : parse text = .ok c)
    (hfloat : c.holdsFloat = false) :
    parse c.toText = .ok c.reread ∧
      (c.reread = c ↔ ∀ e ∈ c.packages.values, ∀ m, e = .bucket m → m.keys ≠ ["default"]) :=
  ⟨parse_written (wasRead_of_ofJson (parse_eq_ok_iff.1 h)) hfloat, reread_eq_self_iff⟩

/-- A bucket with a default among its keys, and a flag with ordered defaults and a list of
templates. -/
def mixedShapes : Config where
  packages := .ofList [("kit", .bucket (.ofList [("default", "d"), ("k", "/")]))]
  expandableFlags := .ofList [("p", .detailed {
    defaults := [("n", .number (.negative 2)), ("a", .number (.natural 1))]
    linux := some (.many [⟨"l", none⟩]) })]

def mixedShapesText : String :=
  "\x7b\"nxPackages\": \x7b\"kit\": \x7b\"default\": \"d\", \"k\": \"/\"\x7d\x7d,
  \"expandable-flags\": \x7b\"p\": \x7b\"defaults\": \x7b\"n\": -2, \"a\": 1\x7d, " ++
    "\"linux-template\": [[\"l\"]]\x7d\x7d\x7d"

theorem parse_toText_mixedShapes :
    parse mixedShapesText = .ok mixedShapes ∧ mixedShapes.holdsFloat = false ∧
      parse mixedShapes.toText = .ok mixedShapes := by
  have hread : parse mixedShapesText = .ok mixedShapes := by decide +kernel
  have hfloat : mixedShapes.holdsFloat = false := by decide +kernel
  have hsame : mixedShapes.reread = mixedShapes := by decide +kernel
  exact ⟨hread, hfloat, by rw [(parse_toText hread hfloat).1, hsame]⟩

def loneDefault : Config where
  packages := .ofList [("p", .bucket (.ofList [("default", "b")]))]

def loneDefaultAgain : Config where
  packages := .ofList [("p", .structured { default := "b" })]

/-- A definition cannot give its default twice, so that this is a bucket; written again, it is a
definition. -/
theorem parse_toText_loneDefault :
    parse "\x7b\"nxPackages\": \x7b\"p\": \x7b\"default\": \"a\", \"default\": \"b\"\x7d\x7d\x7d" =
      .ok loneDefault ∧
      loneDefault.holdsFloat = false ∧
      parse loneDefault.toText = .ok loneDefaultAgain ∧ loneDefaultAgain ≠ loneDefault := by
  have hread :
      parse
        "\x7b\"nxPackages\": \x7b\"p\": \x7b\"default\": \"a\", \"default\": \"b\"\x7d\x7d\x7d" =
        .ok loneDefault := by
    decide +kernel
  have hfloat : loneDefault.holdsFloat = false := by decide +kernel
  have hagain : loneDefault.reread = loneDefaultAgain := by decide +kernel
  refine ⟨hread, hfloat, ?_, by decide +kernel⟩
  rw [parse_written (wasRead_of_ofJson (parse_eq_ok_iff.1 hread)) hfloat, hagain]

end Config

end Shorthand

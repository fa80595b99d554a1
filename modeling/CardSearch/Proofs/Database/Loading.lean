import CardSearch.Database
import Mathlib.Data.List.Sort
import Mathlib.Tactic.Common

/-!
# Loading a directory

A directory is loaded file by file, in the order of the bytes of the names. Either every card file
holds cards, and the database is all of them in this order, or the first file that holds none is
named. The order in which the directory is listed does not matter, and neither does anything in it
that is no card file.
-/

namespace CardSearch

/-- The file system in which a directory is listed as the given names. -/
def FileSystem.listing (fs : FileSystem) (path : Path) (names : List Path) : FileSystem :=
  Function.update fs path (some (.directory (some names)))

/-! ### Documents with cards -/

/-- A document holds cards: it is one of them, or an array of them. -/
inductive Json.Holds : Json → List Card → Prop
  | one (c : Card) : Holds c.toJson [c]
  | many (cs : List Card) : Holds (.array (cs.map Card.toJson)) cs

lemma Card.ofJson?_eq_some_iff {doc : Json} {c : Card} :
    Card.ofJson? doc = some c ↔ doc = c.toJson := by
  obtain ⟨fields⟩ := c
  cases doc <;> simp [Card.ofJson?, Card.toJson]

lemma Card.mapM_ofJson?_eq_some_iff {docs : List Json} {cs : List Card} :
    docs.mapM Card.ofJson? = some cs ↔ docs = cs.map Card.toJson := by
  induction docs generalizing cs with
  | nil => cases cs <;> simp
  | cons doc docs ih =>
    rw [List.mapM_cons]
    cases cs with
    | nil => simp [Option.bind_eq_some_iff]
    | cons c cs => simp [Option.bind_eq_some_iff, Card.ofJson?_eq_some_iff, ih]

namespace Database

variable {fs fs' : FileSystem} {path : Path} {names names' : List Path}

lemma cards?_eq_some_iff {text : String} {cs : List Card} :
    cards? text = some cs ↔ ∃ doc, Json.read? depthLimit text = some doc ∧ doc.Holds cs := by
  rw [cards?]
  constructor
  · split
    · next docs hdoc =>
      intro h
      obtain rfl := Card.mapM_ofJson?_eq_some_iff.mp h
      exact ⟨_, hdoc, .many cs⟩
    · next doc _ hdoc =>
      intro h
      obtain ⟨c, hc, rfl⟩ := Option.map_eq_some_iff.mp h
      obtain rfl := Card.ofJson?_eq_some_iff.mp hc
      exact ⟨_, hdoc, .one c⟩
    · intro h
      cases h
  · rintro ⟨doc, hdoc, hholds⟩
    rw [hdoc]
    cases hholds with
    | one c => rfl
    | many => exact Card.mapM_ofJson?_eq_some_iff.mpr rfl

/-! ### Files one after the other -/

/-- What stands under a path can be read, and is a document that holds cards. -/
def FileHolds (fs : FileSystem) (path : Path) (cs : List Card) : Prop :=
  ∃ text doc, fs.text? path = some text ∧ Json.read? depthLimit text = some doc ∧ doc.Holds cs

/-- The complaint about a file that holds no cards. -/
def complaint (fs : FileSystem) (path : Path) : String :=
  (if (fs.text? path).isSome then "Failed to parse cards in " else "Failed to read ") ++
    Text.ofBytes path

lemma readFile_eq_ok_iff {cs : List Card} : readFile fs path = .ok cs ↔ FileHolds fs path cs := by
  rw [readFile, FileHolds]
  cases fs.text? path with
  | none => simp
  | some text =>
    simp only [Option.some.injEq, exists_and_left, exists_eq_left', ← cards?_eq_some_iff]
    cases cards? text <;> simp

lemma message_of_readFile_eq_error {e : LoadError} (h : readFile fs path = .error e) :
    e.message = complaint fs path := by
  rw [readFile] at h
  rw [complaint]
  cases htext : fs.text? path with
  | none =>
    rw [htext] at h
    cases h
    rfl
  | some text =>
    rw [htext] at h
    dsimp only at h
    cases hcards : cards? text with
    | none =>
      rw [hcards] at h
      cases h
      rfl
    | some cs =>
      rw [hcards] at h
      cases h

/-- What comes of files that are read one after the other: the cards of all of them, or a complaint
about the first one that holds none. -/
structure Outcome (fs : FileSystem) (files : List Path) (result : Except LoadError (List Card)) :
    Prop where
  all : ∀ cards : Path → List Card, (∀ file ∈ files, FileHolds fs file (cards file)) →
    result = .ok (files.flatMap cards)
  first : ¬ (∀ file ∈ files, ∃ cs, FileHolds fs file cs) →
    ∃ earlier file later e, files = earlier ++ file :: later ∧
      (∀ file ∈ earlier, ∃ cs, FileHolds fs file cs) ∧ (∀ cs, ¬ FileHolds fs file cs) ∧
      result = .error e ∧ e.message = complaint fs file

lemma outcome_readFiles (fs : FileSystem) (files : List Path) :
    Outcome fs files (readFiles fs files) := by
  induction files with
  | nil => exact ⟨fun _ _ => rfl, fun h => absurd (by simp) h⟩
  | cons file files ih =>
    constructor
    · intro cards h
      obtain ⟨hfile, hfiles⟩ := List.forall_mem_cons.mp h
      rw [readFiles, readFile_eq_ok_iff.mpr hfile, ih.all cards hfiles]
      rfl
    · intro h
      cases hread : readFile fs file with
      | ok cs =>
        have hfile := readFile_eq_ok_iff.mp hread
        have hfiles : ¬ ∀ file ∈ files, ∃ cs, FileHolds fs file cs :=
          fun hfiles => h (List.forall_mem_cons.mpr ⟨⟨cs, hfile⟩, hfiles⟩)
        obtain ⟨earlier, first, later, e, rfl, hearlier, hfirst, hresult, he⟩ := ih.first hfiles
        refine ⟨file :: earlier, first, later, e, rfl,
          List.forall_mem_cons.mpr ⟨⟨cs, hfile⟩, hearlier⟩, hfirst, ?_, he⟩
        rw [readFiles, hread, hresult]
        rfl
      | error e =>
        refine ⟨[], file, files, e, rfl, by simp, ?_, ?_, message_of_readFile_eq_error hread⟩
        · intro cs hfile
          rw [readFile_eq_ok_iff.mpr hfile] at hread
          cases hread
        · rw [readFiles, hread]

lemma readFile_congr (h : fs' path = fs path) : readFile fs' path = readFile fs path := by
  rw [readFile, readFile, FileSystem.text?, FileSystem.text?, h]

lemma readFiles_congr {files : List Path} (h : ∀ file ∈ files, fs' file = fs file) :
    readFiles fs' files = readFiles fs files := by
  induction files with
  | nil => rfl
  | cons file files ih =>
    obtain ⟨hfile, hfiles⟩ := List.forall_mem_cons.mp h
    rw [readFiles, readFiles, readFile_congr hfile, ih hfiles]

/-! ### The files of a directory -/

/-- A file of the database: a regular file of the directory with the extension behind its name. -/
structure IsCardFile (fs : FileSystem) (directory name : Path) : Prop where
  named : ∃ stem, stem ≠ [] ∧ name = stem ++ Text.bytes ".json"
  regular : ∃ content, fs (Path.join directory name) = some (.file content)

lemma hasExtension_iff {name : Path} :
    Path.hasExtension extension name = true ↔
      ∃ stem, stem ≠ [] ∧ name = stem ++ Text.bytes ".json" := by
  have hending : Path.dot :: extension = Text.bytes ".json" := by decide +kernel
  simp only [Path.hasExtension, Bool.and_eq_true, List.isSuffixOf_iff_suffix, bne_iff_ne, ne_eq,
    hending]
  constructor
  · rintro ⟨⟨stem, rfl⟩, hname⟩
    refine ⟨stem, ?_, rfl⟩
    rintro rfl
    exact hname (List.nil_append _)
  · rintro ⟨stem, hstem, rfl⟩
    refine ⟨List.suffix_append _ _, ?_⟩
    rw [List.append_left_eq_self]
    exact hstem

lemma isMember_iff {name : Path} : isMember fs path name = true ↔ IsCardFile fs path name := by
  have hregular : (fs (Path.join path name)).any Entry.isFile = true ↔
      ∃ content, fs (Path.join path name) = some (.file content) := by
    cases fs (Path.join path name) with
    | none => simp
    | some entry => cases entry <;> simp [Entry.isFile]
  rw [isMember, Bool.and_eq_true, hasExtension_iff, hregular]
  exact ⟨fun ⟨hnamed, hregular⟩ => ⟨hnamed, hregular⟩, fun h => ⟨h.named, h.regular⟩⟩

instance (name : Path) : Decidable (IsCardFile fs path name) := decidable_of_iff _ isMember_iff

/-- The names of the card files of a directory, in the order in which the files are read. -/
def cardFiles (fs : FileSystem) (path : Path) (names : List Path) : List Path :=
  (names.filter (IsCardFile fs path ·)).mergeSort (· ≤ ·)

lemma cardFiles_perm (fs : FileSystem) (path : Path) (names : List Path) :
    (cardFiles fs path names).Perm (names.filter (IsCardFile fs path ·)) :=
  List.mergeSort_perm _ _

lemma cardFiles_pairwise (fs : FileSystem) (path : Path) (names : List Path) :
    (cardFiles fs path names).Pairwise (· ≤ ·) :=
  List.pairwise_mergeSort' (· ≤ ·) _

/-- The card files have one order only. -/
lemma cardFiles_eq {sorted : List Path} (hsorted : sorted.Pairwise (· ≤ ·))
    (hperm : sorted.Perm (names.filter (IsCardFile fs path ·))) :
    cardFiles fs path names = sorted :=
  List.Perm.eq_of_pairwise' (cardFiles_pairwise fs path names) hsorted
    ((cardFiles_perm fs path names).trans hperm.symm)

lemma load_eq_readFiles (h : fs path = some (.directory (some names))) :
    load fs path = readFiles fs ((cardFiles fs path names).map (Path.join path)) := by
  have hfilter : names.filter (isMember fs path) = names.filter (IsCardFile fs path ·) :=
    List.filter_congr fun name _ => Bool.eq_iff_iff.mpr (by rw [isMember_iff, decide_eq_true_iff])
  rw [load, files, h]
  dsimp only
  rw [hfilter]
  rfl

/-- Two file systems have the same card files in a directory that they may list in different orders
and beside different things. -/
structure SameCardFiles (fs fs' : FileSystem) (path : Path) (names names' : List Path) :
    Prop where
  perm : (names'.filter (IsCardFile fs' path ·)).Perm (names.filter (IsCardFile fs path ·))
  contents : ∀ name ∈ names, IsCardFile fs path name →
    fs' (Path.join path name) = fs (Path.join path name)

lemma SameCardFiles.cardFiles_eq (h : SameCardFiles fs fs' path names names') :
    cardFiles fs' path names' = cardFiles fs path names :=
  Database.cardFiles_eq (cardFiles_pairwise fs path names)
    ((cardFiles_perm fs path names).trans h.perm.symm)

lemma SameCardFiles.load_eq (h : SameCardFiles fs fs' path names names')
    (hfs : fs path = some (.directory (some names)))
    (hfs' : fs' path = some (.directory (some names'))) : load fs' path = load fs path := by
  rw [load_eq_readFiles hfs, load_eq_readFiles hfs', h.cardFiles_eq]
  apply readFiles_congr
  intro file hfile
  obtain ⟨name, hname, rfl⟩ := List.mem_map.mp hfile
  have hmem := (cardFiles_perm fs path names).mem_iff.mp hname
  rw [List.mem_filter, decide_eq_true_iff] at hmem
  exact h.contents name hmem.1 hmem.2

/-! ### Directories in any order -/

lemma listing_join_eq_file_iff (h : fs path = some (.directory (some names)))
    (names' : List Path) (name : Path) (content : Option ByteArray) :
    fs.listing path names' (Path.join path name) = some (.file content) ↔
      fs (Path.join path name) = some (.file content) := by
  rw [FileSystem.listing]
  by_cases hjoin : Path.join path name = path
  · rw [hjoin, Function.update_self, h]
    simp
  · rw [Function.update_of_ne hjoin]

lemma isCardFile_listing_iff (h : fs path = some (.directory (some names))) (names' : List Path)
    (name : Path) : IsCardFile (fs.listing path names') path name ↔ IsCardFile fs path name := by
  have hregular := listing_join_eq_file_iff h names' name
  exact ⟨fun ⟨hnamed, c, hc⟩ => ⟨hnamed, c, (hregular c).mp hc⟩,
    fun ⟨hnamed, c, hc⟩ => ⟨hnamed, c, (hregular c).mpr hc⟩⟩

lemma sameCardFiles_listing (h : fs path = some (.directory (some names)))
    (hperm : names'.Perm names) : SameCardFiles fs (fs.listing path names') path names names' where
  perm := by
    simp only [isCardFile_listing_iff h]
    exact hperm.filter _
  contents name _ hname := by
    obtain ⟨content, hcontent⟩ := hname.regular
    rw [hcontent, listing_join_eq_file_iff h]
    exact hcontent

/-- A directory is loaded in the order of the bytes of its names, as a whole or up to the first
file that holds no cards. In whichever order it is listed, and whatever stands in it beside the
card files, the outcome is the same. -/
theorem load_directory (h : fs path = some (.directory (some names))) :
    (cardFiles fs path names).Perm (names.filter (IsCardFile fs path ·)) ∧
    (cardFiles fs path names).Pairwise (· ≤ ·) ∧
    Outcome fs ((cardFiles fs path names).map (Path.join path)) (load fs path) ∧
    (∀ names', names'.Perm names → load (fs.listing path names') path = load fs path) ∧
    ∀ fs' names', fs' path = some (.directory (some names')) →
      SameCardFiles fs fs' path names names' → load fs' path = load fs path := by
  have houtcome := outcome_readFiles fs ((cardFiles fs path names).map (Path.join path))
  rw [← load_eq_readFiles h] at houtcome
  refine ⟨cardFiles_perm fs path names, cardFiles_pairwise fs path names, houtcome, ?_, ?_⟩
  · intro names' hperm
    exact (sameCardFiles_listing h hperm).load_eq h (Function.update_self _ _ _)
  · intro fs' names' hfs' hsame
    exact hsame.load_eq h hfs'

/-- Two files with three cards are loaded in the order of their names, however they are listed, and
also without the other entries. A file that holds something else is named, with a replacement
character where its name is no text. -/
theorem load_directory_two_files :
    ∃ (fs bare broken : FileSystem) (ant bee cow : Card),
      fs (Text.bytes "db") = some (.directory (some
        (["b.json", "notes.txt", "a.json", "old.json"].map Text.bytes))) ∧
      load (fs.listing (Text.bytes "db")
        (["a.json", "b.json", "old.json", "notes.txt"].map Text.bytes)) (Text.bytes "db") =
          .ok [ant, bee, cow] ∧
      bare (Text.bytes "db") = some (.directory (some (["b.json", "a.json"].map Text.bytes))) ∧
      load bare (Text.bytes "db") = .ok [ant, bee, cow] ∧
      broken (Text.bytes "db") = some (.directory (some [0xFF :: Text.bytes ".json"])) ∧
      ∃ e, load broken (Text.bytes "db") = .error e ∧
        e.message = "Failed to parse cards in db/\uFFFD.json" := by
  let ant : Card := ⟨[("name", .text "Ant")]⟩
  let bee : Card := ⟨[("name", .text "Bee")]⟩
  let cow : Card := ⟨[]⟩
  let db : Path := Text.bytes "db"
  let a : Path := Text.bytes "a.json"
  let b : Path := Text.bytes "b.json"
  let c : Path := 0xFF :: Text.bytes ".json"
  let names : List Path := [b, Text.bytes "notes.txt", a, Text.bytes "old.json"]
  let files : List (Path × Entry) :=
    [(Path.join db a, .file (some "\x7b\"name\": \"Ant\"\x7d".toUTF8)),
      (Path.join db b, .file (some "[\x7b\"name\": \"Bee\"\x7d, \x7b\x7d]".toUTF8)),
      (Path.join db c, .file (some "null".toUTF8)),
      (Path.join db (Text.bytes "old.json"), .directory none)]
  let fs : FileSystem := .ofList ((db, .directory (some names)) :: files)
  let bare : FileSystem := .ofList ((db, .directory (some [b, a])) :: files)
  let broken : FileSystem := .ofList ((db, .directory (some [c])) :: files)
  let cards : Path → List Card := fun file => if file = Path.join db a then [ant] else [bee, cow]
  have hfs : fs db = some (.directory (some names)) := rfl
  have hlisted : broken db = some (.directory (some [c])) := rfl
  obtain ⟨-, -, houtcome, horder, hsame⟩ := load_directory hfs
  obtain ⟨-, -, hbroken, -, -⟩ := load_directory hlisted
  have hfilter : names.filter (IsCardFile fs db ·) = [b, a] := by decide +kernel
  have hload : load fs db = .ok [ant, bee, cow] := by
    have hnames : cardFiles fs db names = [a, b] :=
      cardFiles_eq (by decide +kernel) (hfilter ▸ .swap _ _ _)
    have ha : FileHolds fs (Path.join db a) [ant] :=
      readFile_eq_ok_iff.mp (by with_unfolding_all rfl)
    have hb : FileHolds fs (Path.join db b) [bee, cow] :=
      readFile_eq_ok_iff.mp (by with_unfolding_all rfl)
    have hne : Path.join db b ≠ Path.join db a := by decide +kernel
    rw [hnames] at houtcome
    refine houtcome.all cards ?_
    simp only [List.map_cons, List.map_nil, List.forall_mem_cons]
    refine ⟨?_, ?_, by simp⟩
    · rwa [show cards (Path.join db a) = [ant] from if_pos rfl]
    · rwa [show cards (Path.join db b) = [bee, cow] from if_neg hne]
  have hone : (cardFiles broken db [c]).map (Path.join db) = [Path.join db c] := by
    have hfilter : [c].filter (IsCardFile broken db ·) = [c] := by decide +kernel
    rw [cardFiles_eq (List.pairwise_singleton _ _) (.of_eq hfilter.symm)]
    rfl
  have hnone : ∀ cs, ¬ FileHolds broken (Path.join db c) cs := by
    intro cs hcs
    have hread : readFile broken (Path.join db c) = .error (.noCards (Path.join db c)) := by
      with_unfolding_all rfl
    rw [readFile_eq_ok_iff.mpr hcs] at hread
    cases hread
  rw [hone] at hbroken
  obtain ⟨earlier, file, later, e, hsplit, -, -, he, hmessage⟩ :=
    hbroken.first fun h => (h _ (List.mem_singleton_self _)).elim hnone
  obtain ⟨rfl, rfl, rfl⟩ : earlier = [] ∧ file = Path.join db c ∧ later = [] := by
    cases earlier <;> simp_all
  refine ⟨fs, bare, broken, ant, bee, cow, hfs, ?_, rfl, ?_, hlisted, e, he, ?_⟩
  · exact (horder _ (by decide +kernel)).trans hload
  · have hbare : [b, a].filter (IsCardFile bare db ·) = [b, a] := by decide +kernel
    have hcontents : ∀ name ∈ names, IsCardFile fs db name →
        bare (Path.join db name) = fs (Path.join db name) := by
      simp only [names, List.forall_mem_cons]
      exact ⟨fun _ => rfl, fun _ => rfl, fun _ => rfl, fun _ => rfl, by simp⟩
    exact (hsame bare _ rfl ⟨hbare ▸ hfilter ▸ .refl _, hcontents⟩).trans hload
  · rw [hmessage]
    decide +kernel

end Database

end CardSearch

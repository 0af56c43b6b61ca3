import CodeGauge.Proofs.Disk.Write
import CodeGauge.Proofs.Text.Utf8
import CodeGauge.Survey

/-!
# Writing texts and reading them

A text that is written is read back with its line ends unified, so that it comes back as it was if
it has no carriage return, and comes back the second time in any case (`writeText_readText`).

A file that can be read can be written: its path leads to the file also when one is made there if
it is missing (`find_file_of_find`), and what is above it is a directory already
(`makeDirs_parent`).
-/

namespace CodeGauge

open Text

namespace Disk

variable {top : Entry} {links : Nat} {place : Location} {parts : List String}

/-! ## The way to a file -/

theorem getLast?_of_cons {name : String} {rest : List String}
    (h : (name :: rest).getLast? = some "") (hname : name ≠ "") : rest.getLast? = some "" := by
  cases rest with
  | nil => exact absurd (Option.some.inj h) hname
  | cons next rest => rwa [List.getLast?_cons_cons] at h

/-- A path that asks for a directory leads to one. -/
theorem isDir_of_find {aim : Aim} {there : Location} {e : Entry} {left : Nat}
    (h : find top aim links place parts = .ok (.taken there e, left))
    (hlast : parts.getLast? = some "") : e.isDir = true := by
  have hempty {name : String} (hname : ¬(decide (name = "") || decide (name = ".")) = true) :
      name ≠ "" := fun hnil => hname (by simp [hnil])
  fun_induction find top aim links place parts with
  | case1 => cases hlast
  | case3 links place name rest entries he hname ih =>
      cases rest with
      | nil =>
          rw [find_nil he] at h
          cases h
          rfl
      | cons next rest => exact ih h (by rwa [List.getLast?_cons_cons] at hlast)
  | case4 links place rest entries he hname ih => exact ih h (getLast?_of_cons hlast (by decide))
  | case9 links place name rest entries he hname hup hslash hlong target hlink hself =>
      have hrest := getLast?_of_cons hlast (hempty hname)
      have hnil : rest = [] := List.isEmpty_iff.mp (Bool.and_eq_true_iff.mp hself).1
      rw [hnil] at hrest
      cases hrest
  | case11 place name rest entries he hname hup hslash hlong target hlink hself left ih =>
      refine ih h ?_
      rw [List.getLast?_append, getLast?_of_cons hlast (hempty hname)]
      rfl
  | case12 links place name rest entries he hname hup hslash hlong child hchild hget ih =>
      exact ih h (getLast?_of_cons hlast (hempty hname))
  | _ => cases h

/-- The way to a file is the same for one that is made if it is missing. -/
theorem find_file_of_find {there : Location} {bytes : Bytes} {left : Nat}
    (h : find top .entry links place parts = .ok (.taken there (.file bytes), left)) :
    find top .file links place parts = .ok (.taken there (.file bytes), left) := by
  -- The last name does not ask for a directory.
  have hslash {links : Nat} {place : Location} {first rest : List String}
      (h : find top .entry links place (first ++ rest) = .ok (.taken there (.file bytes), left)) :
      rest ≠ [""] := by
    rintro rfl
    exact absurd (isDir_of_find h (by simp)) nofun
  generalize haim : Aim.entry = aim at h
  fun_induction find top aim links place parts with
  | case1 links place e he =>
      rw [find_nil he]
      exact h
  | case3 links place name rest entries he hname ih =>
      rw [find_stay he hname]
      exact ih h
  | case4 links place rest entries he hname ih =>
      rw [find_up he]
      exact ih h
  | case9 => simp [← haim] at *
  | case11 place name rest entries he hname hup _ hlong target hlink _ left' ih =>
      subst haim
      have hthere := (Entry.at?_snoc he name).trans hlink
      rw [find_link he hname hup (.inr (hslash h)) hlong hthere (by simp)]
      exact ih h
  | case12 links place name rest entries he hname hup _ hlong child hchild hget ih =>
      subst haim
      have hthere := (Entry.at?_snoc he name).trans hget
      rw [find_enter he hname hup (.inr (@hslash _ _ [] _ h)) hlong hthere hchild]
      exact ih h
  | _ => cases h

/-- On the way to an entry there is a directory before the last name. -/
theorem find_init {init : List String} {name : String} {found : Spot × Nat}
    (h : find top .entry links place (init ++ [name]) = .ok found) :
    ∃ there entries left,
      find top .entry links place init = .ok (.taken there (.dir entries), left) := by
  generalize haim : Aim.entry = aim at h ⊢
  -- Every name is looked up in a directory, the last one in the directory that is asked for.
  have hhere {links : Nat} {place : Location} {entries : List (String × Entry)}
      (he : top.at? place = some (.dir entries)) : ∃ there entries left,
        find top aim links place [] = .ok (.taken there (.dir entries), left) :=
    ⟨place, entries, links, find_nil he⟩
  generalize hparts : init ++ [name] = parts at h
  fun_induction find top aim links place parts generalizing init with
  | case1 => simp at hparts
  | case3 links place first rest entries he hname ih =>
      obtain ⟨rfl, -⟩ | ⟨init, rfl, rfl⟩ := List.append_eq_cons_iff.mp hparts
      · exact hhere he
      · rw [find_stay he hname]
        exact ih rfl h
  | case4 links place rest entries he hname ih =>
      obtain ⟨rfl, -⟩ | ⟨init, rfl, rfl⟩ := List.append_eq_cons_iff.mp hparts
      · exact hhere he
      · rw [find_up he]
        exact ih rfl h
  | case7 links place first rest entries he hname hup hslash hlong hnone hrest =>
      obtain ⟨rfl, -⟩ | ⟨init, rfl, rfl⟩ := List.append_eq_cons_iff.mp hparts
      · exact hhere he
      · simp at hrest
  | case9 => simp [← haim] at *
  | case11 place first rest entries he hname hup _ hlong target hlink _ left' ih =>
      obtain ⟨rfl, -⟩ | ⟨init, rfl, rfl⟩ := List.append_eq_cons_iff.mp hparts
      · exact hhere he
      · subst haim
        have hthere := (Entry.at?_snoc he first).trans hlink
        rw [find_link he hname hup (.inl (by decide)) hlong hthere (by simp)]
        exact ih (List.append_assoc ..) h
  | case12 links place first rest entries he hname hup _ hlong child hchild hget ih =>
      obtain ⟨rfl, -⟩ | ⟨init, rfl, rfl⟩ := List.append_eq_cons_iff.mp hparts
      · exact hhere he
      · subst haim
        have hthere := (Entry.at?_snoc he first).trans hget
        rw [find_enter he hname hup (.inl (by decide)) hlong hthere hchild]
        exact ih rfl h
  | _ => cases h

/-- What a path leads to is there also if a link at its end is not followed. -/
theorem find_self_of_find {there : Location} {e : Entry} {left : Nat}
    (h : find top .entry links place parts = .ok (.taken there e, left)) :
    ∃ there e left, find top .self links place parts = .ok (.taken there e, left) := by
  generalize haim : Aim.entry = aim at h
  fun_induction find top aim links place parts with
  | case1 links place e he => exact ⟨place, e, links, find_nil he⟩
  | case3 links place name rest entries he hname ih =>
      rw [find_stay he hname]
      exact ih h
  | case4 links place rest entries he hname ih =>
      rw [find_up he]
      exact ih h
  | case9 => simp [← haim] at *
  | case11 place name rest entries he hname hup _ hlong target hlink _ left' ih =>
      rw [find_name he hname hup (.inl (by decide)) hlong, hlink]
      dsimp only
      split
      · exact ⟨_, _, _, rfl⟩
      · exact ih h
  | case12 links place name rest entries he hname hup _ hlong child hchild hget ih =>
      have hthere := (Entry.at?_snoc he name).trans hget
      rw [find_enter he hname hup (.inl (by decide)) hlong hthere hchild]
      exact ih h
  | _ => cases h

/-! ## A file that can be read -/

/-- A path is longer than that of its parent and has all its characters. -/
theorem checkPath_of_child {p : Path} {name : String} (h : checkPath (p.child name) = .ok ()) :
    checkPath p = .ok () := by
  by_cases hp : p.parts = []
  · obtain ⟨root, parts⟩ := p
    obtain rfl : parts = [] := hp
    cases root <;> rfl
  · rw [checkPath_eq_ok_iff, Path.text_child hp] at h
    obtain ⟨hnull, hsize⟩ := h
    simp only [String.toList_append, List.mem_append, not_or, String.utf8ByteSize_append]
      at hnull hsize
    exact checkPath_eq_ok_iff.mpr ⟨hnull.1.1, by omega⟩

section Readable

variable {d : Disk} {p : Path} {bytes : Bytes}

/-- What is above a file is a directory, and no other has to be made. -/
theorem makeDirs_parent (hp : p.parts ≠ []) (h : d.readBytes p = .ok bytes) :
    d.makeDirs p.parent = .ok d := by
  obtain ⟨place, left, hspot⟩ := readBytes_eq_ok_iff.mp h
  obtain ⟨hcheck, hfind⟩ := spot_eq_ok_iff.mp hspot
  obtain ⟨name, hname⟩ := Path.exists_child_parent hp
  rw [hname] at hcheck hfind
  have hparent := checkPath_of_child hcheck
  obtain ⟨there, entries, left', hentry⟩ := find_init hfind
  obtain ⟨there', e', left'', hself⟩ := find_self_of_find hentry
  have hmake : d.makeDir p.parent = .error (.refused .present p.parent.text) := by
    rw [makeDir, spot_eq_ok_iff.mpr ⟨hparent, hself⟩]
  have hdir : d.isDir p.parent = .ok true := by
    rw [isDir, lookup, reach, spot_eq_ok_iff.mpr ⟨hparent, hentry⟩]
    rfl
  have hensure : d.ensureDir p.parent = .ok d := by
    rw [ensureDir, hmake]
    simp only [hdir]
  rw [makeDirs, ensureDirs]
  have hsame : Path.mk p.parent.root p.parent.parts = p.parent := rfl
  rw [hsame, hensure]

theorem isWritable_of_readBytes (hp : p.parts ≠ []) (h : d.readBytes p = .ok bytes) :
    d.IsWritable p := by
  obtain ⟨place, left, hspot⟩ := readBytes_eq_ok_iff.mp h
  obtain ⟨hcheck, hfind⟩ := spot_eq_ok_iff.mp hspot
  have hfile := spot_eq_ok_iff.mpr ⟨hcheck, find_file_of_find hfind⟩
  refine ⟨d.put place (.file (encodeUtf8 "".toList)), ?_⟩
  rw [writeText, makeDirs_parent hp h]
  simp only [writeBytes, changeBytes, hfile]

end Readable

/-! ## Texts -/

/-- What is read after a text was written. -/
theorem readText_of_writeText {d d' : Disk} {p : Path} {content : String}
    (h : d.writeText p content = .ok d') :
    d'.readText p = .ok (String.ofList (unifyNewlines content.toList)) := by
  rw [readText, readBytes_of_writeText h]
  simp only [Except.map, decodeUtf8_encodeUtf8]

/-- What is read can be written back, and is read again. -/
theorem exists_writeText_readText {d : Disk} {p : Path} {bytes : Bytes} (hp : p.parts ≠ [])
    (h : d.readBytes p = .ok bytes) :
    ∃ text d', d.readText p = .ok text ∧ d.writeText p text = .ok d'
      ∧ d'.readText p = .ok text := by
  have hread : d.readText p = .ok (String.ofList (unifyNewlines (decodeUtf8 bytes))) := by
    rw [readText, h, Except.map]
  obtain ⟨d', hwrite⟩ := (isWritable_of_readBytes hp h).exists_writeText
    (String.ofList (unifyNewlines (decodeUtf8 bytes)))
  refine ⟨_, d', hread, hwrite, ?_⟩
  rw [readText_of_writeText hwrite, String.toList_ofList, unifyNewlines_unifyNewlines]

end Disk

namespace Survey

theorem readText_eq_ok_iff {d : Disk} {p : Path} {text : String} :
    readText d p = .ok text ↔ d.readText p = .ok text := by
  rw [readText]
  cases d.readText p with
  | ok text' => simp
  | error e => cases e <;> simp

theorem writeText_eq_ok_iff {d d' : Disk} {p : Path} {content : String} :
    writeText d p content = .ok d' ↔ d.writeText p content = .ok d' := by
  rw [writeText]
  cases d.writeText p content with
  | ok d'' => simp
  | error e => cases e <;> simp

/-- **Texts are written exactly, and read with their line ends unified.** A file that was written
holds the bytes of the text in UTF-8, and reading it gives the text with every carriage return,
with or without a line feed after it, replaced by a line feed; this is the text itself if it has no
carriage return. Of a file of any bytes, what is read can be written back, and is then read
again. Only a file has to have a name: a path without any is that of a directory. -/
theorem writeText_readText :
    (∀ (d d' : Disk) (p : Path) (content : String), writeText d p content = .ok d' →
      d'.readBytes p = .ok content.toUTF8.data.toList
        ∧ ∃ text, readText d' p = .ok text ∧ Unified content.toList text.toList
          ∧ (text = content ↔ '\r' ∉ content.toList))
    ∧ ∀ (d : Disk) (p : Path) (bytes : Bytes), p.parts ≠ [] → d.readBytes p = .ok bytes →
      ∃ text d', readText d p = .ok text ∧ writeText d p text = .ok d'
        ∧ readText d' p = .ok text := by
  simp only [readText_eq_ok_iff, writeText_eq_ok_iff]
  refine ⟨fun d d' p content h => ⟨?_, _, Disk.readText_of_writeText h, ?_, ?_⟩,
    fun d p bytes => Disk.exists_writeText_readText⟩
  · rw [Disk.readBytes_of_writeText h, String.toUTF8, toByteArray_toList]
  · rw [String.toList_ofList]
    exact unified_unifyNewlines content.toList
  · rw [← String.toList_inj, String.toList_ofList]
    exact (unified_unifyNewlines content.toList).eq_iff

/-- A disk with a file whose bytes are no text. -/
def brokenDisk : Disk := ⟨.dir [("a.js", .file [0x61, 0xFF, 0x0D])], []⟩

theorem readBytes_brokenDisk : brokenDisk.readBytes ⟨.here, ["a.js"]⟩ = .ok [0x61, 0xFF, 0x0D] := by
  have hreach : brokenDisk.reach ⟨.here, ["a.js"]⟩
      = .ok (["a.js"], .file [0x61, 0xFF, 0x0D], Disk.linkLimit) :=
    Disk.reach_name (by decide) (by decide) (by decide) rfl rfl nofun
  rw [Disk.readBytes, hreach]

/-- A text with line ends of three kinds, and a file that holds no text. -/
theorem writeText_readText_brokenDisk :
    (∃ d', writeText brokenDisk ⟨.here, ["a.js"]⟩ "a\r\nb\rc\n" = .ok d'
      ∧ ∃ text, readText d' ⟨.here, ["a.js"]⟩ = .ok text ∧ text ≠ "a\r\nb\rc\n")
    ∧ ∃ text d', readText brokenDisk ⟨.here, ["a.js"]⟩ = .ok text
      ∧ writeText brokenDisk ⟨.here, ["a.js"]⟩ text = .ok d'
      ∧ readText d' ⟨.here, ["a.js"]⟩ = .ok text := by
  have hnamed : (Path.mk .here ["a.js"]).parts ≠ [] := List.cons_ne_nil _ _
  refine ⟨?_, writeText_readText.2 _ _ _ hnamed readBytes_brokenDisk⟩
  obtain ⟨d', hdisk⟩ :=
    (Disk.isWritable_of_readBytes hnamed readBytes_brokenDisk).exists_writeText "a\r\nb\rc\n"
  have hwrite := writeText_eq_ok_iff.mpr hdisk
  obtain ⟨-, text, hread, -, hsame⟩ := writeText_readText.1 _ _ _ _ hwrite
  exact ⟨d', hwrite, text, hread, fun htext => hsame.mp htext (by decide)⟩

end Survey

end CodeGauge

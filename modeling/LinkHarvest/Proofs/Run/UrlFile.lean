import LinkHarvest.Proofs.Files.Tree
import LinkHarvest.Proofs.Run.Containment
import LinkHarvest.Proofs.Run.Requests
import LinkHarvest.Proofs.Text.Lines
import LinkHarvest.Proofs.Text.Utf8

/-!
# Files of URLs

A run of the URLs in a file reads the file before it does anything else. It finds URLs there
(`HasUrls`), or it is over (`Refused`), with nothing sent and the store as it was; `urlsIn_cases`
says that these two are all that can happen. With URLs, every one of them is a source without an
owner, in the order of the lines, and `byFile_refuses_or_fans_out` says what comes of them.

Not every refusal is a problem of the configuration. Bytes that are no text, and a null character in
the path, are complaints about values, like a remark that no column can hold.
-/

namespace LinkHarvest.Run

open Fallible

/-- The file holds the URLs: it is a text, and they are its lines, trimmed and without the blank
ones. -/
def HasUrls (files : Files) (path : FilePath) (urls : List Text) : Prop :=
  ∃ t lines, files.read path = .ok (Utf8.encode t) ∧ Text.HasLines t lines ∧
    urls = (lines.map Text.trim).filter (· ≠ [])

/-- Why a file gives no URLs. -/
inductive Refused (files : Files) (path : FilePath) : Problem → Prop
  | unreadable {p : FileProblem} (h : files.read path = .error p) :
      Refused files path (.urlFile path p)
  | noText {content : Bytes} {p : Utf8.Problem} (hread : files.read path = .ok content)
      (h : ∀ t, content ≠ Utf8.encode t) (hproblem : Utf8.decode content = .error p) :
      Refused files path (.urlFileEncoding p)
  | noUrls (h : HasUrls files path []) : Refused files path (.noUrls path)

variable {setting : Setting} {options : Options.FetchOptions} {files : Files} {path : FilePath}
  {s : State} {urls : List Text} {p : Problem}

theorem nonBlankLines_eq {t : Text} {lines : List Text} (h : Text.HasLines t lines) :
    Text.nonBlankLines (Text.withLineFeeds t) = (lines.map Text.trim).filter (· ≠ []) := by
  unfold Text.nonBlankLines
  rw [h.split]
  refine List.filter_congr fun line _ => ?_
  cases line <;> rfl

theorem urlsIn_of_read {t : Text} (h : files.read path = .ok (Utf8.encode t)) :
    urlsIn files path =
      if Text.nonBlankLines (Text.withLineFeeds t) = [] then .error (.noUrls path)
      else .ok (Text.nonBlankLines (Text.withLineFeeds t)) := by
  unfold urlsIn
  rw [h, mapError_ok, ok_bind, Utf8.decode_encode, mapError_ok, ok_bind]
  cases Text.nonBlankLines (Text.withLineFeeds t) <;> rfl

theorem urlsIn_cases (files : Files) (path : FilePath) :
    (∃ p, Refused files path p ∧ urlsIn files path = .error p) ∨
      ∃ urls, urls ≠ [] ∧ HasUrls files path urls ∧ urlsIn files path = .ok urls := by
  cases hread : files.read path with
  | error p =>
    refine .inl ⟨_, .unreadable hread, ?_⟩
    unfold urlsIn
    rw [hread]
    rfl
  | ok content =>
    cases htext : Utf8.decode content with
    | error p =>
      refine .inl ⟨_, .noText hread ?_ htext, ?_⟩
      · intro t ht
        cases htext.symm.trans (Utf8.decode_eq_ok.mpr ht)
      · unfold urlsIn
        rw [hread, mapError_ok, ok_bind, htext]
        rfl
    | ok t =>
      obtain rfl := Utf8.decode_eq_ok.mp htext
      obtain ⟨lines, hlines⟩ := Text.exists_hasLines t
      have hurls := urlsIn_of_read hread
      rw [nonBlankLines_eq hlines] at hurls
      by_cases hnone : (lines.map Text.trim).filter (· ≠ []) = []
      · rw [if_pos hnone] at hurls
        exact .inl ⟨_, .noUrls ⟨t, lines, hread, hlines, hnone.symm⟩, hurls⟩
      · rw [if_neg hnone] at hurls
        exact .inr ⟨_, hnone, ⟨t, lines, hread, hlines, rfl⟩, hurls⟩

/-- A refusal is a problem of the configuration unless the path has a null character or the file is
no text. -/
theorem Refused.isConfiguration (h : Refused files path p) :
    p.isConfiguration = true ↔
      '\x00' ∉ path.text ∧
        ∀ content, files.read path = .ok content → ∃ t, content = Utf8.encode t := by
  cases h with
  | @unreadable p hread =>
    have hnull := Files.read_eq_null hread
    have hcontent : ∀ content, files.read path = .ok content → ∃ t, content = Utf8.encode t := by
      intro content hcontent
      cases hread.symm.trans hcontent
    rw [Problem.isConfiguration, bne_iff_ne, ne_eq, hnull]
    exact ⟨fun hno => ⟨hno, hcontent⟩, And.left⟩
  | noText hread hno _ =>
    refine ⟨nofun, ?_⟩
    rintro ⟨-, htext⟩
    obtain ⟨t, ht⟩ := htext _ hread
    exact absurd ht (hno t)
  | noUrls hurls =>
    obtain ⟨t, lines, hread, -, -⟩ := hurls
    refine ⟨fun _ => ⟨Files.null_not_mem_of_read hread, ?_⟩, fun _ => rfl⟩
    intro content hcontent
    cases hread.symm.trans hcontent
    exact ⟨t, rfl⟩

theorem fanOut_ofUrls (hworkers : WorkersInRange options) (hclock : setting.ClockInRange)
    (urls : List Text) (events : List Log.Event) :
    (∃ r, (fanOut setting options (urls.map .ofUrl) (s.logged events)).1 = .ok r ∧
        List.Forall₂ (Contained setting options s) (urls.map .ofUrl) r.outcomes) ∨
      (∃ url ∈ urls, (Source.ofUrl url).Breaks setting options s) ∧
        ∃ t, (fanOut setting options (urls.map .ofUrl) (s.logged events)).1 =
          .error (.source (.store (.unpairedHalf t))) := by
  have hfits : ∀ source ∈ urls.map Source.ofUrl, source.Fits := by
    intro source hsource
    obtain ⟨url, -, rfl⟩ := List.mem_map.mp hsource
    exact fits_ofUrl url
  rw [fanOut_result hworkers, mapM_verdict_logged]
  by_cases hbreaks : ∃ turn ∈ turns setting options s (urls.map .ofUrl),
      turn.source.Breaks setting options turn.state
  · obtain ⟨turn, hturn, hbreaks⟩ := hbreaks
    obtain ⟨t, ht⟩ := mapM_verdict_of_breaks hclock hfits hturn hbreaks
    obtain ⟨url, hurl, hsource⟩ := List.mem_map.mp (source_mem_of_mem_turns hturn)
    have hstart := hbreaks.of_turn (frame_of_mem_turns hturn _) (numbersLeft_of_mem_turns hturn)
    rw [← hsource] at hstart
    exact .inr ⟨⟨url, hurl, hstart⟩, t, by rw [ht]⟩
  · obtain ⟨os, hos⟩ := mapM_verdict_ok hclock hfits fun turn hturn h => hbreaks ⟨turn, hturn, h⟩
    refine .inl ⟨_, by rw [hos], ?_⟩
    rw [BatchResult.ofOutcomes_outcomes]
    exact contained_of_verdicts hos

/-- **A run of the URLs in a file is refused before it begins, or fans out over the lines of the
file.** Three values are not reported as what they are: a null character in the path, bytes that are
no text, and a link whose remark no store can hold. -/
theorem byFile_refuses_or_fans_out (hworkers : WorkersInRange options)
    (hclock : setting.ClockInRange) (hmode : options.mode = .byFile)
    (hpath : options.file = some path) :
    (∃ p, Refused files path p ∧ byFile setting options files path s = (.error p, s) ∧
      run setting options files s = ⟨.error p, files, s⟩ ∧
      (p.isConfiguration = true ↔ '\x00' ∉ path.text ∧
        ∀ content, files.read path = .ok content → ∃ t, content = Utf8.encode t)) ∨
    ∃ urls, urls ≠ [] ∧ HasUrls files path urls ∧
      collect setting options files s = byFile setting options files path s ∧
      byFile setting options files path s =
        fanOut setting options (urls.map .ofUrl) (s.logged [.urlFileLoaded path.text urls.length]) ∧
      ((∃ r, (byFile setting options files path s).1 = .ok r ∧
          List.Forall₂ (Contained setting options s) (urls.map .ofUrl) r.outcomes) ∨
        (∃ url ∈ urls, (Source.ofUrl url).Breaks setting options s) ∧
          ∃ t, (byFile setting options files path s).1 =
            .error (.source (.store (.unpairedHalf t)))) := by
  have hcollect : collect setting options files s = byFile setting options files path s := by
    unfold collect
    rw [hmode, hpath]
    rfl
  rcases urlsIn_cases files path with ⟨p, hrefused, hurls⟩ | ⟨urls, hne, hhas, hurls⟩
  · have hbyFile : byFile setting options files path s = (.error p, s) := by
      unfold byFile
      rw [hurls]
    refine .inl ⟨p, hrefused, hbyFile, ?_, hrefused.isConfiguration⟩
    unfold run
    rw [hcollect, hbyFile]
  · have hbyFile : byFile setting options files path s =
        fanOut setting options (urls.map .ofUrl)
          (s.logged [.urlFileLoaded path.text urls.length]) := by
      unfold byFile
      rw [hurls]
    refine .inr ⟨urls, hne, hhas, hcollect, hbyFile, ?_⟩
    rw [hbyFile]
    exact fanOut_ofUrls hworkers hclock urls _

/-- A file that holds a byte with which no character starts. -/
def strayByte : Files := ⟨[], [(["urls".toList], .file [0xff])]⟩

/-- The options of a run of the URLs in a file. -/
def urlsAt (path : FilePath) : Options.FetchOptions :=
  ⟨none, none, false, some path, none, none, 3, none⟩

/-- The stray byte is met before anything is sent, and is no problem of the configuration. -/
theorem byFile_refuses_strayByte :
    ∃ p, Refused strayByte (.ofText "urls") p ∧ p.isConfiguration = false ∧
      run (.serving []) (urlsAt (.ofText "urls")) strayByte (.start oneSubscription []) =
        ⟨.error p, strayByte, .start oneSubscription []⟩ := by
  have hread : strayByte.read (.ofText "urls") = .ok [0xff] := by decide +kernel
  have hno : ∀ t, [0xff] ≠ Utf8.encode t := by
    intro t ht
    have hdecode : (Utf8.decode [0xff]).toOption = none := by decide +kernel
    rw [Utf8.decode_eq_ok.mpr ht] at hdecode
    cases hdecode
  have hworkers : WorkersInRange (urlsAt (.ofText "urls")) := ⟨by decide, by decide⟩
  rcases @byFile_refuses_or_fans_out _ _ strayByte _ (.start oneSubscription []) hworkers
      (Setting.serving_clock []) rfl rfl
    with ⟨p, hrefused, -, hrun, hreported⟩ | ⟨urls, -, ⟨t, lines, htext, -, -⟩, -⟩
  · refine ⟨p, hrefused, ?_, hrun⟩
    rw [Bool.eq_false_iff, ne_eq, hreported]
    rintro ⟨-, htext⟩
    obtain ⟨t, ht⟩ := htext _ hread
    exact hno t ht
  · exact absurd (Except.ok.inj (hread.symm.trans htext)) (hno t)

end LinkHarvest.Run

import Scriptorium.Proofs.Link.Encode
/-! # Where a source is found in the repository

A path that leads through the source root is encoded as a whole for its address in the
repository (`Config.repositoryPath_eq`). Percent escapes keep apart the characters that they
replace and leave slashes alone (`Percent.count_encode`), so the address tells the file
(`Config.repositoryUrl_identifies`).
-/

namespace Scriptorium

namespace Percent

variable {reserved : Char → Bool} {c : Char}

private theorem encode_cons (reserved : Char → Bool) (c : Char) (s : Text) :
    encode reserved (c :: s) = encode reserved [c] ++ encode reserved s := by
  rw [encode, List.flatMap_cons, encode, List.flatMap_singleton, encode]

private theorem encode_singleton (ascii : c.toNat < 0x80) (plain : reserved c = false) :
    encode reserved [c] = [c] := by
  have kept : (decide (0x80 ≤ c.toNat) || reserved c) = false := by
    rw [plain, decide_eq_false (Nat.not_le.mpr ascii), Bool.or_self]
  rw [encode, List.flatMap_singleton, kept]
  rfl

/-- What is neither reserved nor needed for escapes stands in an encoding as often as in the
text. -/
theorem count_encode (ascii : c.toNat < 0x80) (plain : reserved c = false)
    (other : c ∉ '%' :: Hex.capitalDigits) (s : Text) :
    (encode reserved s).count c = s.count c := by
  induction s with
  | nil => rfl
  | cons d s ih =>
    rw [encode_cons, List.count_append, ih, List.count_cons, Nat.add_comm]
    congr 1
    by_cases same : d = c
    · subst same
      rw [encode_singleton ascii plain, List.count_singleton]
    · rw [if_neg (by simpa using same)]
      refine List.count_eq_zero.mpr fun member => ?_
      rcases mem_encode member with sign | ⟨-, -, held⟩
      · exact other sign
      · exact same (List.mem_singleton.mp held).symm

end Percent

namespace Config

variable {config : Config} {source other : Path}

private theorem withSlashes_eq_self {s : Text} (plain : '\\' ∉ s) : withSlashes s = s := by
  refine (List.map_congr_left fun c member => ?_).trans (List.map_id s)
  refine if_neg fun same => plain ?_
  rwa [← same]

/-- A path that is written from the source root on. Backslashes would be taken for
slashes. -/
structure FromRoot (config : Config) (source : Path) : Prop where
  root : config.sourceDir.text.dropEndWhile (· == '/') ++ ['/'] <+: source.text
  plainRoot : '\\' ∉ config.sourceDir.text
  plain : '\\' ∉ source.text

/-- A path that starts at the root is the path in the repository. -/
theorem repositoryPath_eq (fromRoot : config.FromRoot source) :
    config.repositoryPath source = source.text := by
  have starts : source.text.startsWith
      (config.sourceDir.text.dropEndWhile (· == '/') ++ ['/']) = true :=
    List.isPrefixOf_iff_prefix.mpr fromRoot.root
  rw [repositoryPath, withSlashes_eq_self fromRoot.plain, withSlashes_eq_self fromRoot.plainRoot]
  exact if_pos starts

/-- **The address of a source identifies it.** Behind the address of the repository the path
can be read back. It has its slashes there, and nothing that means something in an address
or around it. -/
theorem repositoryUrl_identifies (fromRoot : config.FromRoot source) :
    (∃ address, config.repositoryUrl source = config.sourceBaseUrl ++ address ∧
      Percent.decode address = source.text ∧ address.count '/' = source.text.count '/' ∧
        ∀ c ∈ " \"#?&<>\x60\x7b\x7d".toList, c ∉ address) ∧
    ∀ other, config.FromRoot other → config.repositoryUrl other = config.repositoryUrl source →
      other = source := by
  have sign : isReserved '%' = true := by decide
  have specials : " \"#?&<>\x60\x7b\x7d".toList.all (fun c => isReserved c &&
      !('%' :: Hex.capitalDigits).contains c) = true := by decide
  have read (path : Path) : Percent.decode (Percent.encode isReserved path.text) = path.text :=
    Percent.decode_encode sign path.text
  rw [repositoryUrl, repositoryPath_eq fromRoot]
  constructor
  · refine ⟨_, rfl, read source, ?_, fun c special => ?_⟩
    · exact Percent.count_encode (by decide) (by decide) (by decide) source.text
    · have listed := Bool.and_eq_true_iff.mp (List.all_eq_true.mp specials c special)
      exact Percent.not_mem_encode listed.1 (by simpa using listed.2) source.text
  · intro other rooted same
    rw [repositoryUrl, repositoryPath_eq rooted, List.append_cancel_left_eq] at same
    have texts : other.text = source.text := by rw [← read other, same, read source]
    cases other
    cases source
    exact congrArg Path.mk texts

/-- A path with signs that are escaped, an escape of its own and a letter beyond ASCII. -/
theorem repositoryUrl_identifies_escapes :
    Config.standard.FromRoot ⟨"library/Gödel & Co/100%20 #1?.md".toList⟩ ∧
    (∃ address, Config.standard.repositoryUrl ⟨"library/Gödel & Co/100%20 #1?.md".toList⟩ =
        Config.standard.sourceBaseUrl ++ address ∧
      Percent.decode address = "library/Gödel & Co/100%20 #1?.md".toList ∧
        address.count '/' = 2 ∧ ∀ c ∈ " \"#?&<>\x60\x7b\x7d".toList, c ∉ address) ∧
    ∀ other, Config.standard.FromRoot other →
      Config.standard.repositoryUrl other =
        Config.standard.repositoryUrl ⟨"library/Gödel & Co/100%20 #1?.md".toList⟩ →
      other = ⟨"library/Gödel & Co/100%20 #1?.md".toList⟩ := by
  have fromRoot : Config.standard.FromRoot ⟨"library/Gödel & Co/100%20 #1?.md".toList⟩ :=
    ⟨by decide, by decide, by decide⟩
  exact ⟨fromRoot, repositoryUrl_identifies fromRoot⟩

end Config

end Scriptorium

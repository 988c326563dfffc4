import SchemaCatalog.Text.CombiningClass

/-!
# Joiners in labels

Two invisible characters ask for letters to be joined or kept apart. They may stand only where that
makes a difference.

* `Domain.joining?`: how a letter joins others.
* `Domain.joinersFit`: whether all joiners of a label are in place.
-/

namespace SchemaCatalog.Url.Domain

/-- How a letter joins others: on both sides, to the letter before or after it, not itself but with
those around it joined through it, or so that it makes those join. -/
inductive Joining
  | both
  | before
  | after
  | through
  | causing
  deriving DecidableEq, Repr

/-- The letters that join others: first and last of a range. Characters that are not allowed in
domain names may be counted in. -/
def joinings : Array (Nat × Nat × Joining) := #[
  (0x300, 0x36F, .through), (0x483, 0x489, .through), (0x591, 0x5BD, .through),
  (0x5BF, 0x5BF, .through), (0x5C1, 0x5C2, .through), (0x5C4, 0x5C5, .through),
  (0x5C7, 0x5C7, .through), (0x610, 0x61A, .through), (0x620, 0x620, .both),
  (0x622, 0x625, .before), (0x626, 0x626, .both), (0x627, 0x627, .before), (0x628, 0x628, .both),
  (0x629, 0x629, .before), (0x62A, 0x62E, .both), (0x62F, 0x632, .before), (0x633, 0x63F, .both),
  (0x640, 0x640, .causing), (0x641, 0x647, .both), (0x648, 0x648, .before), (0x649, 0x64A, .both),
  (0x64B, 0x65F, .through), (0x66E, 0x66F, .both), (0x670, 0x670, .through),
  (0x671, 0x673, .before), (0x679, 0x687, .both), (0x688, 0x699, .before), (0x69A, 0x6BF, .both),
  (0x6C0, 0x6C0, .before), (0x6C1, 0x6C2, .both), (0x6C3, 0x6CB, .before), (0x6CC, 0x6CC, .both),
  (0x6CD, 0x6CD, .before), (0x6CE, 0x6CE, .both), (0x6CF, 0x6CF, .before), (0x6D0, 0x6D1, .both),
  (0x6D2, 0x6D3, .before), (0x6D5, 0x6D5, .before), (0x6D6, 0x6DC, .through),
  (0x6DF, 0x6E4, .through), (0x6E7, 0x6E8, .through), (0x6EA, 0x6ED, .through),
  (0x6EE, 0x6EF, .before), (0x6FA, 0x6FC, .both), (0x6FF, 0x6FF, .both), (0x710, 0x710, .before),
  (0x711, 0x711, .through), (0x712, 0x714, .both), (0x715, 0x719, .before), (0x71A, 0x71D, .both),
  (0x71E, 0x71E, .before), (0x71F, 0x727, .both), (0x728, 0x728, .before), (0x729, 0x729, .both),
  (0x72A, 0x72A, .before), (0x72B, 0x72B, .both), (0x72C, 0x72C, .before), (0x72D, 0x72E, .both),
  (0x72F, 0x72F, .before), (0x730, 0x74A, .through), (0x74D, 0x74D, .before), (0x74E, 0x758, .both),
  (0x759, 0x75B, .before), (0x75C, 0x76A, .both), (0x76B, 0x76C, .before), (0x76D, 0x770, .both),
  (0x771, 0x771, .before), (0x772, 0x772, .both), (0x773, 0x774, .before), (0x775, 0x777, .both),
  (0x778, 0x779, .before), (0x77A, 0x77F, .both), (0x7A6, 0x7B0, .through), (0x7CA, 0x7EA, .both),
  (0x7EB, 0x7F3, .through), (0x7FA, 0x7FA, .causing), (0x7FD, 0x7FD, .through),
  (0x816, 0x819, .through), (0x81B, 0x823, .through), (0x825, 0x827, .through),
  (0x829, 0x82D, .through), (0x840, 0x840, .before), (0x841, 0x845, .both), (0x846, 0x847, .before),
  (0x848, 0x848, .both), (0x849, 0x849, .before), (0x84A, 0x853, .both), (0x854, 0x854, .before),
  (0x855, 0x855, .both), (0x856, 0x858, .before), (0x859, 0x85B, .through), (0x860, 0x860, .both),
  (0x862, 0x865, .both), (0x867, 0x867, .before), (0x868, 0x868, .both), (0x869, 0x882, .before),
  (0x883, 0x885, .causing), (0x886, 0x886, .both), (0x889, 0x88D, .both), (0x88E, 0x88E, .before),
  (0x898, 0x89F, .through), (0x8A0, 0x8A9, .both), (0x8AA, 0x8AC, .before), (0x8AE, 0x8AE, .before),
  (0x8AF, 0x8B0, .both), (0x8B1, 0x8B2, .before), (0x8B3, 0x8B8, .both), (0x8B9, 0x8B9, .before),
  (0x8BA, 0x8C8, .both), (0x8CA, 0x902, .through), (0x93A, 0x93A, .through),
  (0x93C, 0x93C, .through), (0x941, 0x948, .through), (0x94D, 0x94D, .through),
  (0x951, 0x957, .through), (0x962, 0x963, .through), (0x981, 0x981, .through),
  (0x9BC, 0x9BC, .through), (0x9C1, 0x9C4, .through), (0x9CD, 0x9CD, .through),
  (0x9E2, 0x9E3, .through), (0x9FE, 0xA02, .through), (0xA3C, 0xA3C, .through),
  (0xA41, 0xA51, .through), (0xA70, 0xA71, .through), (0xA75, 0xA75, .through),
  (0xA81, 0xA82, .through), (0xABC, 0xABC, .through), (0xAC1, 0xAC8, .through),
  (0xACD, 0xACD, .through), (0xAE2, 0xAE3, .through), (0xAFA, 0xB01, .through),
  (0xB3C, 0xB3C, .through), (0xB3F, 0xB3F, .through), (0xB41, 0xB44, .through),
  (0xB4D, 0xB56, .through), (0xB62, 0xB63, .through), (0xB82, 0xB82, .through),
  (0xBC0, 0xBC0, .through), (0xBCD, 0xBCD, .through), (0xC00, 0xC00, .through),
  (0xC04, 0xC04, .through), (0xC3C, 0xC3C, .through), (0xC3E, 0xC40, .through),
  (0xC46, 0xC56, .through), (0xC62, 0xC63, .through), (0xC81, 0xC81, .through),
  (0xCBC, 0xCBC, .through), (0xCBF, 0xCBF, .through), (0xCC6, 0xCC6, .through),
  (0xCCC, 0xCCD, .through), (0xCE2, 0xCE3, .through), (0xD00, 0xD01, .through),
  (0xD3B, 0xD3C, .through), (0xD41, 0xD44, .through), (0xD4D, 0xD4D, .through),
  (0xD62, 0xD63, .through), (0xD81, 0xD81, .through), (0xDCA, 0xDCA, .through),
  (0xDD2, 0xDD6, .through), (0xE31, 0xE31, .through), (0xE34, 0xE3A, .through),
  (0xE47, 0xE4E, .through), (0xEB1, 0xEB1, .through), (0xEB4, 0xEBC, .through),
  (0xEC8, 0xECE, .through), (0xF18, 0xF19, .through), (0xF35, 0xF35, .through),
  (0xF37, 0xF37, .through), (0xF39, 0xF39, .through), (0xF71, 0xF7E, .through),
  (0xF80, 0xF84, .through), (0xF86, 0xF87, .through), (0xF8D, 0xFBC, .through),
  (0xFC6, 0xFC6, .through), (0x102D, 0x1030, .through), (0x1032, 0x1037, .through),
  (0x1039, 0x103A, .through), (0x103D, 0x103E, .through), (0x1058, 0x1059, .through),
  (0x105E, 0x1060, .through), (0x1071, 0x1074, .through), (0x1082, 0x1082, .through),
  (0x1085, 0x1086, .through), (0x108D, 0x108D, .through), (0x109D, 0x109D, .through),
  (0x135D, 0x135F, .through), (0x1712, 0x1714, .through), (0x1732, 0x1733, .through),
  (0x1752, 0x1753, .through), (0x1772, 0x1773, .through), (0x17B7, 0x17BD, .through),
  (0x17C6, 0x17C6, .through), (0x17C9, 0x17D3, .through), (0x17DD, 0x17DD, .through),
  (0x1807, 0x1807, .both), (0x180A, 0x180A, .causing), (0x1820, 0x1878, .both),
  (0x1885, 0x1886, .through), (0x1887, 0x18A8, .both), (0x18A9, 0x18A9, .through),
  (0x18AA, 0x18AA, .both), (0x1920, 0x1922, .through), (0x1927, 0x1928, .through),
  (0x1932, 0x1932, .through), (0x1939, 0x193B, .through), (0x1A17, 0x1A18, .through),
  (0x1A1B, 0x1A1B, .through), (0x1A56, 0x1A56, .through), (0x1A58, 0x1A60, .through),
  (0x1A62, 0x1A62, .through), (0x1A65, 0x1A6C, .through), (0x1A73, 0x1A7F, .through),
  (0x1AB0, 0x1ACE, .through), (0x1B00, 0x1B03, .through), (0x1B34, 0x1B34, .through),
  (0x1B36, 0x1B3A, .through), (0x1B3C, 0x1B3C, .through), (0x1B42, 0x1B42, .through),
  (0x1B6B, 0x1B73, .through), (0x1B80, 0x1B81, .through), (0x1BA2, 0x1BA5, .through),
  (0x1BA8, 0x1BA9, .through), (0x1BAB, 0x1BAD, .through), (0x1BE6, 0x1BE6, .through),
  (0x1BE8, 0x1BE9, .through), (0x1BED, 0x1BED, .through), (0x1BEF, 0x1BF1, .through),
  (0x1C2C, 0x1C33, .through), (0x1C36, 0x1C37, .through), (0x1CD0, 0x1CD2, .through),
  (0x1CD4, 0x1CE0, .through), (0x1CE2, 0x1CE8, .through), (0x1CED, 0x1CED, .through),
  (0x1CF4, 0x1CF4, .through), (0x1CF8, 0x1CF9, .through), (0x1DC0, 0x1DFF, .through),
  (0x200D, 0x200D, .causing), (0x20D0, 0x20F0, .through), (0x2CEF, 0x2CF1, .through),
  (0x2D7F, 0x2D7F, .through), (0x2DE0, 0x2DFF, .through), (0x302A, 0x302D, .through),
  (0x3099, 0x309A, .through), (0xA66F, 0xA672, .through), (0xA674, 0xA67D, .through),
  (0xA69E, 0xA69F, .through), (0xA6F0, 0xA6F1, .through), (0xA802, 0xA802, .through),
  (0xA806, 0xA806, .through), (0xA80B, 0xA80B, .through), (0xA825, 0xA826, .through),
  (0xA82C, 0xA82C, .through), (0xA840, 0xA871, .both), (0xA872, 0xA872, .after),
  (0xA8C4, 0xA8C5, .through), (0xA8E0, 0xA8F1, .through), (0xA8FF, 0xA8FF, .through),
  (0xA926, 0xA92D, .through), (0xA947, 0xA951, .through), (0xA980, 0xA982, .through),
  (0xA9B3, 0xA9B3, .through), (0xA9B6, 0xA9B9, .through), (0xA9BC, 0xA9BD, .through),
  (0xA9E5, 0xA9E5, .through), (0xAA29, 0xAA2E, .through), (0xAA31, 0xAA32, .through),
  (0xAA35, 0xAA36, .through), (0xAA43, 0xAA43, .through), (0xAA4C, 0xAA4C, .through),
  (0xAA7C, 0xAA7C, .through), (0xAAB0, 0xAAB0, .through), (0xAAB2, 0xAAB4, .through),
  (0xAAB7, 0xAAB8, .through), (0xAABE, 0xAABF, .through), (0xAAC1, 0xAAC1, .through),
  (0xAAEC, 0xAAED, .through), (0xAAF6, 0xAAF6, .through), (0xABE5, 0xABE5, .through),
  (0xABE8, 0xABE8, .through), (0xABED, 0xABED, .through), (0xFB1E, 0xFB1E, .through),
  (0xFE20, 0xFE2F, .through), (0x101FD, 0x101FD, .through), (0x102E0, 0x102E0, .through),
  (0x10376, 0x1037A, .through), (0x10A01, 0x10A0F, .through), (0x10A38, 0x10A3F, .through),
  (0x10AC0, 0x10AC4, .both), (0x10AC5, 0x10AC5, .before), (0x10AC7, 0x10AC7, .before),
  (0x10AC9, 0x10ACA, .before), (0x10ACD, 0x10ACD, .after), (0x10ACE, 0x10AD2, .before),
  (0x10AD3, 0x10AD6, .both), (0x10AD7, 0x10AD7, .after), (0x10AD8, 0x10ADC, .both),
  (0x10ADD, 0x10ADD, .before), (0x10ADE, 0x10AE0, .both), (0x10AE1, 0x10AE1, .before),
  (0x10AE4, 0x10AE4, .before), (0x10AE5, 0x10AE6, .through), (0x10AEB, 0x10AEE, .both),
  (0x10AEF, 0x10AEF, .before), (0x10B80, 0x10B80, .both), (0x10B81, 0x10B81, .before),
  (0x10B82, 0x10B82, .both), (0x10B83, 0x10B85, .before), (0x10B86, 0x10B88, .both),
  (0x10B89, 0x10B89, .before), (0x10B8A, 0x10B8B, .both), (0x10B8C, 0x10B8C, .before),
  (0x10B8D, 0x10B8D, .both), (0x10B8E, 0x10B8F, .before), (0x10B90, 0x10B90, .both),
  (0x10B91, 0x10B91, .before), (0x10BA9, 0x10BAC, .before), (0x10BAD, 0x10BAE, .both),
  (0x10D00, 0x10D00, .after), (0x10D01, 0x10D21, .both), (0x10D22, 0x10D22, .before),
  (0x10D23, 0x10D23, .both), (0x10D24, 0x10D27, .through), (0x10EAB, 0x10EAC, .through),
  (0x10EFD, 0x10EFF, .through), (0x10F30, 0x10F32, .both), (0x10F33, 0x10F33, .before),
  (0x10F34, 0x10F44, .both), (0x10F46, 0x10F50, .through), (0x10F51, 0x10F53, .both),
  (0x10F54, 0x10F54, .before), (0x10F70, 0x10F73, .both), (0x10F74, 0x10F75, .before),
  (0x10F76, 0x10F81, .both), (0x10F82, 0x10F85, .through), (0x10FB0, 0x10FB0, .both),
  (0x10FB2, 0x10FB3, .both), (0x10FB4, 0x10FB6, .before), (0x10FB8, 0x10FB8, .both),
  (0x10FB9, 0x10FBA, .before), (0x10FBB, 0x10FBC, .both), (0x10FBD, 0x10FBD, .before),
  (0x10FBE, 0x10FBF, .both), (0x10FC1, 0x10FC1, .both), (0x10FC2, 0x10FC3, .before),
  (0x10FC4, 0x10FC4, .both), (0x10FC9, 0x10FC9, .before), (0x10FCA, 0x10FCA, .both),
  (0x10FCB, 0x10FCB, .after), (0x11001, 0x11001, .through), (0x11038, 0x11046, .through),
  (0x11070, 0x11070, .through), (0x11073, 0x11074, .through), (0x1107F, 0x11081, .through),
  (0x110B3, 0x110B6, .through), (0x110B9, 0x110BA, .through), (0x110C2, 0x110C2, .through),
  (0x11100, 0x11102, .through), (0x11127, 0x1112B, .through), (0x1112D, 0x11134, .through),
  (0x11173, 0x11173, .through), (0x11180, 0x11181, .through), (0x111B6, 0x111BE, .through),
  (0x111C9, 0x111CC, .through), (0x111CF, 0x111CF, .through), (0x1122F, 0x11231, .through),
  (0x11234, 0x11234, .through), (0x11236, 0x11237, .through), (0x1123E, 0x1123E, .through),
  (0x11241, 0x11241, .through), (0x112DF, 0x112DF, .through), (0x112E3, 0x112EA, .through),
  (0x11300, 0x11301, .through), (0x1133B, 0x1133C, .through), (0x11340, 0x11340, .through),
  (0x11366, 0x11374, .through), (0x11438, 0x1143F, .through), (0x11442, 0x11444, .through),
  (0x11446, 0x11446, .through), (0x1145E, 0x1145E, .through), (0x114B3, 0x114B8, .through),
  (0x114BA, 0x114BA, .through), (0x114BF, 0x114C0, .through), (0x114C2, 0x114C3, .through),
  (0x115B2, 0x115B5, .through), (0x115BC, 0x115BD, .through), (0x115BF, 0x115C0, .through),
  (0x115DC, 0x115DD, .through), (0x11633, 0x1163A, .through), (0x1163D, 0x1163D, .through),
  (0x1163F, 0x11640, .through), (0x116AB, 0x116AB, .through), (0x116AD, 0x116AD, .through),
  (0x116B0, 0x116B5, .through), (0x116B7, 0x116B7, .through), (0x1171D, 0x1171F, .through),
  (0x11722, 0x11725, .through), (0x11727, 0x1172B, .through), (0x1182F, 0x11837, .through),
  (0x11839, 0x1183A, .through), (0x1193B, 0x1193C, .through), (0x1193E, 0x1193E, .through),
  (0x11943, 0x11943, .through), (0x119D4, 0x119DB, .through), (0x119E0, 0x119E0, .through),
  (0x11A01, 0x11A0A, .through), (0x11A33, 0x11A38, .through), (0x11A3B, 0x11A3E, .through),
  (0x11A47, 0x11A47, .through), (0x11A51, 0x11A56, .through), (0x11A59, 0x11A5B, .through),
  (0x11A8A, 0x11A96, .through), (0x11A98, 0x11A99, .through), (0x11C30, 0x11C3D, .through),
  (0x11C3F, 0x11C3F, .through), (0x11C92, 0x11CA7, .through), (0x11CAA, 0x11CB0, .through),
  (0x11CB2, 0x11CB3, .through), (0x11CB5, 0x11CB6, .through), (0x11D31, 0x11D45, .through),
  (0x11D47, 0x11D47, .through), (0x11D90, 0x11D91, .through), (0x11D95, 0x11D95, .through),
  (0x11D97, 0x11D97, .through), (0x11EF3, 0x11EF4, .through), (0x11F00, 0x11F01, .through),
  (0x11F36, 0x11F3A, .through), (0x11F40, 0x11F40, .through), (0x11F42, 0x11F42, .through),
  (0x13440, 0x13440, .through), (0x13447, 0x13455, .through), (0x16AF0, 0x16AF4, .through),
  (0x16B30, 0x16B36, .through), (0x16F4F, 0x16F4F, .through), (0x16F8F, 0x16F92, .through),
  (0x16FE4, 0x16FE4, .through), (0x1BC9D, 0x1BC9E, .through), (0x1CF00, 0x1CF46, .through),
  (0x1D167, 0x1D169, .through), (0x1D17B, 0x1D182, .through), (0x1D185, 0x1D18B, .through),
  (0x1D1AA, 0x1D1AD, .through), (0x1D242, 0x1D244, .through), (0x1DA00, 0x1DA36, .through),
  (0x1DA3B, 0x1DA6C, .through), (0x1DA75, 0x1DA75, .through), (0x1DA84, 0x1DA84, .through),
  (0x1DA9B, 0x1DAAF, .through), (0x1E000, 0x1E08F, .through), (0x1E130, 0x1E136, .through),
  (0x1E2AE, 0x1E2AE, .through), (0x1E2EC, 0x1E2EF, .through), (0x1E4EC, 0x1E4EF, .through),
  (0x1E8D0, 0x1E8D6, .through), (0x1E922, 0x1E943, .both), (0x1E944, 0x1E94B, .through)]

def joining? (c : Char) : Option Joining :=
  (joinings.find? fun r => decide (r.1 ≤ c.toNat ∧ c.toNat ≤ r.2.1)).map fun r => r.2.2

/-- The character that keeps letters apart. -/
def nonJoiner : Char := Char.ofNat 0x200C

/-- The character that joins letters. -/
def joiner : Char := Char.ofNat 0x200D

/-- Whether the first letter of a text that does not let others join through it joins on one
side. -/
def firstJoins (side : Joining) (s : List Char) : Bool :=
  match (s.dropWhile fun c => joining? c = some .through).head? with
  | some c => joining? c = some side || joining? c = some .both
  | none => false

def isJoiner (c : Char) : Bool := c = joiner || c = nonJoiner

/-- Whether all joiners are in place; `done` is the part of the label before, in reverse order. -/
def joinersFitAfter (done : List Char) : List Char → Bool
  | [] => true
  | c :: cs =>
    let afterVirama := done.head?.any fun p => Text.combiningClass p == Text.viramaClass
    (!isJoiner c || afterVirama ||
        (c == nonJoiner && firstJoins .after done && firstJoins .before cs)) &&
    joinersFitAfter (c :: done) cs

/-- Whether all joiners of a label are in place. -/
def joinersFit (label : List Char) : Bool := joinersFitAfter [] label

end SchemaCatalog.Url.Domain

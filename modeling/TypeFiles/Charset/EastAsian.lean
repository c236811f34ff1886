/-
# Charsets of East Asia

The charsets of one language share most of their characters.
-/

import TypeFiles.Charset.Japanese
import TypeFiles.Charset.Korean
import TypeFiles.Charset.Simplified
import TypeFiles.Charset.Traditional

namespace TypeFiles
namespace Charset

/-- The syllables of Japan in half width. -/
def halfWidth : String :=
  "｡｢｣､･ｦｧｨｩｪｫｬｭｮｯｰｱｲｳｴｵｶｷｸｹｺｻｼｽｾｿﾀﾁﾂﾃﾄﾅﾆﾇﾈﾉﾊﾋﾌﾍﾎﾏﾐﾑﾒﾓﾔﾕﾖﾗﾘﾙﾚﾛﾜﾝﾞﾟ"

/-- The charsets of China. -/
def chineseCharsets : List Pairs := [
  { names := ["gb2312", "chinese", "csiso58gb231280", "euc_cn", "euccn", "eucgb2312_cn",
      "gb2312_1980", "gb2312_80", "iso_ir_58", "x_mac_simp_chinese"]
    double := simplified ++ [(0xA1A4, "・"), (0xA1AA, "―")]
    least := 0xA1
    gaps := [(0xA2A1, 0xA2AA), (0xA6E0, 0xA6F5), (0xA8BB, 0xA8C0)] },
  { names := ["gbk", "936", "cp936", "ms936"]
    double := simplified },
  { names := ["gb18030", "gb18030_2000"]
    double := simplified ++ simplifiedExtra
    sequences := simplifiedPrivate
    hasQuadruples := true },
  { names := ["big5", "big5_tw", "csbig5", "x_mac_trad_chinese"]
    double := traditional },
  { names := ["cp950", "950", "ms950"]
    double := traditional ++ traditionalWindows },
  { names := ["big5hkscs", "big5_hkscs", "hkscs"]
    double := traditional ++ traditionalHongKong
    clusters := traditionalClusters }]

/-- The charsets of Japan. -/
def japaneseCharsets : List Pairs := [
  { names := ["shift_jis", "csshiftjis", "s_jis", "shiftjis", "sjis", "x_mac_japanese"]
    single := [(0xA1, halfWidth)]
    double := japanese },
  { names := ["cp932", "932", "ms932", "ms_kanji", "mskanji"]
    single := [(0x80, "\u0080"), (0xA0, "\uf8f0"), (0xA1, halfWidth), (0xFD, "\uf8f1\uf8f2\uf8f3")]
    double := japanese ++ japaneseWindows
    sequences := japanesePrivate },
  { names := ["euc_jp", "eucjp", "u_jis", "ujis"]
    double := japanese
    sequences := [(0x8EA1, 0xFF61, 63)]
    supplement := japaneseSupplement
    least := 0xA1
    isShifted := true }]

/-- The charsets of Korea. -/
def koreanCharsets : List Pairs := [
  { names := ["euc_kr", "euckr", "korean", "ks_c_5601", "ks_c_5601_1987", "ks_x_1001", "ksc5601",
      "ksx1001", "x_mac_korean"]
    double := korean },
  { names := ["cp949", "949", "ms949", "uhc"]
    double := korean ++ koreanWindows }]

/-- All charsets of East Asia. -/
def eastAsian : List Pairs := chineseCharsets ++ japaneseCharsets ++ koreanCharsets

end Charset
end TypeFiles

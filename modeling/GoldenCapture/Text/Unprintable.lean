import GoldenCapture.Text.CodeSet

/-!
# Unprintable characters

The characters beyond ASCII that do not show by themselves: controls, format characters,
private and unassigned ones, separators, and marks that extend the character before them.
-/

namespace GoldenCapture

/-- Characters beyond ASCII that quoted text writes as an escape. -/
def unprintable : CodeSet := CodeSet.ofGaps (
  "3k w c 0 gi 33 8 1 6 3 7 0 1 0 k 0 68 6 4m 0 12 1 1e 1 3 19 1 0 1 1 1 1 1 8 r 3 6 g " ++
  "a a 1 0 1a k g 0 2t 7 1 5 2 1 1 3 w 1 1 0 u s 2h a 1 d 17 8 7 2 o 3 1 8 1 2 1 6 f 0 " ++
  "p 4 1 0 b 4 w f 16 1k 1j 0 1 0 4 7 4 0 3 6 a 1 t 0 2 0 8 1 2 1 m 0 7 0 1 2 4 2 1 0 2 " ++
  "5 2 1 2 0 1 c 2 0 3 3 o 4 1 0 6 3 2 1 m 0 7 0 2 0 2 0 2 3 3 n 4 0 1 6 a 1 3 0 1 b 1 " ++
  "0 9 0 3 0 m 0 7 0 2 0 5 2 4 7 1 0 2 2 1 e 2 3 c 6 1 7 2 0 8 1 2 1 m 0 7 0 2 0 5 2 1 " ++
  "1 1 5 2 1 2 e 2 0 3 3 i a 1 0 6 2 3 0 4 2 2 0 1 0 2 2 2 2 3 2 c 4 1 0 2 2 3 0 3 2 1 " ++
  "k l 5 3 0 8 0 3 0 n 0 g 2 1 2 4 i 3 0 2 1 2 3 a 6 a 0 b 0 3 0 n 0 a 0 5 2 2 1 1 0 2 " ++
  "m 3 0 2 3 a 0 3 d b 0 3 0 15 1 1 0 2 4 3 0 3 0 2 3 3 0 a 3 q 1 2 0 i 2 o 0 9 0 1 1 7 " ++
  "8 2 5 7 6 a 1 3 b 1c 0 2 a 8 7 d 10 2 0 1 0 5 0 o 0 1 0 a 0 2 8 1 1 5 0 1 8 a 1 4 v " ++
  "o 1 r 0 1 0 1 0 e 0 10 h 1 4 1 1 5 1c 8 0 6 0 d 10 19 3 1 5 1 1 2 1 p 1 4 2 g 3 d 0 " ++
  "2 1 6 0 f 0 14 0 1 4 1 1 ah 0 4 1 7 0 1 0 4 1 15 0 4 1 x 0 4 1 7 0 1 0 4 1 f 0 1l 0 " ++
  "4 1 1v 4 t 2 q 5 2e 1 6 1 hs 0 s 2 2h 6 i c j 2 2 8 i d d 0 3 e 1g 1 1 6 8 0 2 a 9 2 " ++
  "a 5 a 5 b 4 a 5 2h 6 5 1 y 0 1 4 1y 9 v 3 4 1 3 3 2 0 6 6 1 2 16 1 5 a 18 3 q 5 b 2 " ++
  "1l 1 2 2 1k 0 1 8 1 0 2 7 6 c a 5 a 5 e 2d 1c 9 4 2 8 0 t 8 c 1 w 3 2 5 1k 0 1 1 3 0 " ++
  "1 c 1c 7 2 4 f 2 1q 4 17 1 b a 1 c 1 6 4 0 6 0 3 1 1 4 5c 1r 7q 1 6 1 12 1 6 1 8 0 1 " ++
  "0 1 0 1 0 v 1 1h 0 f 0 e 1 6 0 j 1 3 0 9 g o 7 1b g 2 1 r 0 d 2 y 1p 3w 3 ii l b k " ++
  "1ec 1 ah 2 2 4 19 0 1 4 1 1 1k 6 2 e n 8 7 0 7 0 7 0 7 0 7 0 7 0 7 0 7 w 2m x q 0 2h " ++
  "b 5y p g 0 15 5 g 0 2e 3 2t 4 17 0 2m 0 2e 8 1c 0 mlp 2 1j 8 9o j 1b 3 1 9 w 1 28 1 " ++
  "6 7 65 j h 0 3 0 4 0 p 1 5 3 a 5 1k 7 1w 9 c n d 0 12 7 p a 1 b u 5 1c 0 2 3 2 1 2 0 " ++
  "d 0 b 3 7 0 p 0 15 5 2 1 2 a 3 0 8 0 1 1 a 1 w 0 1f 0 1 2 2 1 5 1 1 0 1 n h 1 8 a 6 " ++
  "1 6 1 6 8 7 0 7 0 1o 3 39 0 2 0 4 2 a 5 8mc b n 3 1d 6ir a6 1 2y 11 7 b 5 4 1 0 o 0 " ++
  "5 0 1 0 2 0 2 0 i2 v g f a l z 0 j 0 4 3 5 0 3r 3 4d 1 v 2 6 1 6 1 6 1 3 2 7 0 7 c 2 " ++
  "1 c 0 q 0 j 0 2 0 f 1 e x 3f 4 3 3 19 2 2g 0 d 2 1 1a 19 3m t 2 1d f r 3 10 8 u 4 12 " ++
  "9 u 0 11 3 e 15 4e 1 a 5 10 3 10 3 14 7 1g a c 0 f 0 7 0 2 0 b 0 f 0 7 0 2 2 1g b 8n " ++
  "8 m 9 8 n 6 0 16 0 9 1w 6 1 1 0 18 0 2 2 1 1 n 0 20 7 9 1b j 0 2 4 x 2 r 4 r 11 1k 3 " ++
  "k 1 1b e 4 0 3 0 t 9 9 6 9 6 1s v 11 5 c 8 1i 2 t 1 r 4 q 6 4 b 7 27 21 1i 1f c 1f 6 " ++
  "16 b a 5 12 7 o 7 2 5r v 0 16 2 1 1 2 f 6 7 9 12 14 7 m a 9 l i 3 4 11 s j n 8 1 0 " ++
  "1i e 7 3 u 0 2 1 1 b 1d 3 2 1 2 0 4 d p 6 a 8 10 4 1 8 i 7 z 0 3 a 1g 8 1 0 8 3 2 0 " ++
  "g 0 k a i 0 s 2 2 3 6 0 2 1q 7 0 1 0 4 0 f 0 b 5 1b 0 3 c a 7 2 0 8 1 2 1 m 0 7 0 2 " ++
  "0 5 2 1 0 1 0 4 1 2 1 2 2 1 b 7 r a 0 1 1 1 0 12 0 1 0 2 e 1 0 2 2 1 0 3 0 2 12 1k 7 " ++
  "2 2 1 0 l 0 1 0 3 t 1c 0 2 5 1 0 2 0 1 1 1 1 4 7 a 4l 1b 0 2 5 4 1 1 1 r z 1f 7 2 0 " ++
  "1 1 4 a a 5 d i 17 0 1 0 2 7 2 5 a 5 k r r 2 1 0 2 3 1 8 n 54 1b 8 1 1 1 2r 2b b 8 1 " ++
  "1 1 8 0 2 0 o 0 5 0 2 5 4 0 3 8 a 1x 8 1 16 7 4 0 4 q 1 9 14 5 2 3 8 8 1 5 2 2 1a c " ++
  "1 1 9 c 21 6 a 2e 1 2 1 0 1 2f y d a 5 9 0 12 d 1 0 6 9 t 2 w o 1 6 1 1 1 22 7 0 2 0 " ++
  "12 k 1 8 a 5 6 0 2 0 11 3 2 0 1 0 1 6 a 5 18 3 a 6t j 1 4 8 f 0 10 7 2 2 n 2d 1 e 1e " ++
  "c pn 2t 33 0 5 a 5g 217 2r c ts g 6 o 32z 4 g7 5a0 u b 3 2 a 1c5 ft 6 v 0 a 3 29 0 a " ++
  "5 u 6 1 9 1c 6 f 9 a 0 7 0 l 4 j bz 1m 5h 2j 4 p 1 p 17 23 4 1k a d 1r 4 d 5 8 5p2 " ++
  "14 w 2o 37 6po 4 0 7 0 2 0 83 e 1 s 3 1 1 d 4 7 b0 1s3 2z 4 d 2 9 6 a 1 1 1 1 31b 71 " ++
  "2 c4 5 n e h 2m 38 1n 6u 9 13 1 1o 4 3 l 2 6 u 3 1p k 1u 2 1 3d k b k b 2f 8 p 3q 2d " ++
  "0 1z 0 2 1 1 1 2 1 4 0 c 0 1 0 7 0 1t 0 4 1 8 0 7 0 s 0 4 0 5 0 1 2 7 0 9g 1 84 1 fm " ++
  "1i 4 1d 8 0 e 0 7 vn v 5 6 78 1q 41 19 9 7 1 a 3 2 8v u h 18 3 a 4 1 cv s 3 a 5x u 1 " ++
  "b 3 1 5b v 0 3 0 2 0 7 1 5 8 2 67 7 0 4 0 2 0 f 0 5h 1 9 1b 1w 6 1 3 a 3 2 ls 1w 23 " ++
  "1p 5d 4 0 r 0 2 0 1 1 1 0 a 0 4 0 1 0 1 5 1 3 1 0 1 0 1 0 3 0 2 0 1 1 1 0 1 0 1 0 1 " ++
  "0 1 0 2 0 1 1 4 0 7 0 4 0 4 0 1 0 a 0 h 4 3 0 5 0 h 1f 2 7h 18 3 2s b f 1 f 0 f 0 11 " ++
  "9 4u 1j t c 18 3 9 6 2 d 6 49 rd 2 h 2 d 2 62 5 c 3 1 e c 3 1k 7 a 5 14 7 u 1 c 3 2 " ++
  "d 9 12 9k 7 e 1 d 2 b 2 1l 0 1 3 g 1 c 3 a 6 43 0 2v sk wyo v 3dq 1 4ge 1 5rl e ha " ++
  "1wh f2 15t 3t7 4 6ju jdl1")

end GoldenCapture

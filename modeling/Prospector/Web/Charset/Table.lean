/-!
# Character sets of one byte

For each character set of one byte a character: its names, and the characters of the bytes from 0x80
on as hexadecimal code points, a row of successive ones as its first and last. The bytes below are
the ASCII characters in all of them. A byte that stands for no character has U+FFFD.
-/

namespace Prospector.Web

/-- The names of each character set, and its characters from 0x80 on. -/
def byteCharsets : List (List String × String) := [
  (["ibm866", "866", "cp866", "csibm866"],
    "410-43f 2591-2593 2502 2524 2561-2562 2556 2555 2563 2551 2557 255d 255c 255b 2510 2514 " ++
      "2534 252c 251c 2500 253c 255e-255f 255a 2554 2569 2566 2560 2550 256c 2567-2568 " ++
      "2564-2565 2559 2558 2552-2553 256b 256a 2518 250c 2588 2584 258c 2590 2580 440-44f 401 " ++
      "451 404 454 407 457 40e 45e b0 2219 b7 221a 2116 a4 25a0 a0"),
  (["iso-8859-2", "csisolatin2", "iso-ir-101", "iso8859-2", "iso88592", "iso_8859-2",
    "iso_8859-2:1987", "l2", "latin2"],
    "80-a0 104 2d8 141 a4 13d 15a a7-a8 160 15e 164 179 ad 17d 17b b0 105 2db 142 b4 13e 15b " ++
      "2c7 b8 161 15f 165 17a 2dd 17e 17c 154 c1-c2 102 c4 139 106 c7 10c c9 118 cb 11a cd-ce " ++
      "10e 110 143 147 d3-d4 150 d6-d7 158 16e da 170 dc-dd 162 df 155 e1-e2 103 e4 13a 107 e7 " ++
      "10d e9 119 eb 11b ed-ee 10f 111 144 148 f3-f4 151 f6-f7 159 16f fa 171 fc-fd 163 2d9"),
  (["iso-8859-3", "csisolatin3", "iso-ir-109", "iso8859-3", "iso88593", "iso_8859-3",
    "iso_8859-3:1988", "l3", "latin3"],
    "80-a0 126 2d8 a3-a4 fffd 124 a7-a8 130 15e 11e 134 ad fffd 17b b0 127 b2-b5 125 b7-b8 " ++
      "131 15f 11f 135 bd fffd 17c c0-c2 fffd c4 10a 108 c7-cf fffd d1-d4 120 d6-d7 11c d9-dc " ++
      "16c 15c df-e2 fffd e4 10b 109 e7-ef fffd f1-f4 121 f6-f7 11d f9-fc 16d 15d 2d9"),
  (["iso-8859-4", "csisolatin4", "iso-ir-110", "iso8859-4", "iso88594", "iso_8859-4",
    "iso_8859-4:1988", "l4", "latin4"],
    "80-a0 104 138 156 a4 128 13b a7-a8 160 112 122 166 ad 17d af-b0 105 2db 157 b4 129 13c " ++
      "2c7 b8 161 113 123 167 14a 17e 14b 100 c1-c6 12e 10c c9 118 cb 116 cd-ce 12a 110 145 " ++
      "14c 136 d4-d8 172 da-dc 168 16a df 101 e1-e6 12f 10d e9 119 eb 117 ed-ee 12b 111 146 " ++
      "14d 137 f4-f8 173 fa-fc 169 16b 2d9"),
  (["iso-8859-5", "csisolatincyrillic", "cyrillic", "iso-ir-144", "iso8859-5", "iso88595",
    "iso_8859-5", "iso_8859-5:1988"],
    "80-a0 401-40c ad 40e-44f 2116 451-45c a7 45e-45f"),
  (["iso-8859-6", "arabic", "asmo-708", "csiso88596e", "csiso88596i", "csisolatinarabic",
    "ecma-114", "iso-8859-6-e", "iso-8859-6-i", "iso-ir-127", "iso8859-6", "iso88596",
    "iso_8859-6", "iso_8859-6:1987"],
    "80-a0 fffd fffd fffd a4 fffd fffd fffd fffd fffd fffd fffd 60c ad fffd fffd fffd fffd " ++
      "fffd fffd fffd fffd fffd fffd fffd fffd fffd 61b fffd fffd fffd 61f fffd 621-63a fffd " ++
      "fffd fffd fffd fffd 640-652 fffd fffd fffd fffd fffd fffd fffd fffd fffd fffd fffd fffd " ++
      "fffd"),
  (["iso-8859-7", "csisolatingreek", "ecma-118", "elot_928", "greek", "greek8", "iso-ir-126",
    "iso8859-7", "iso88597", "iso_8859-7", "iso_8859-7:1987", "sun_eu_greek"],
    "80-a0 2018-2019 a3 20ac 20af a6-a9 37a ab-ad fffd 2015 b0-b3 384-386 b7 388-38a bb 38c " ++
      "bd 38e-3a1 fffd 3a3-3ce fffd"),
  (["iso-8859-8", "csiso88598e", "csisolatinhebrew", "hebrew", "iso-8859-8-e", "iso-ir-138",
    "iso8859-8", "iso88598", "iso_8859-8", "iso_8859-8:1988", "visual", "iso-8859-8-i",
    "csiso88598i", "logical"],
    "80-a0 fffd a2-a9 d7 ab-b9 f7 bb-be fffd fffd fffd fffd fffd fffd fffd fffd fffd fffd " ++
      "fffd fffd fffd fffd fffd fffd fffd fffd fffd fffd fffd fffd fffd fffd fffd fffd fffd " ++
      "fffd fffd fffd fffd fffd 2017 5d0-5ea fffd fffd 200e-200f fffd"),
  (["iso-8859-10", "csisolatin6", "iso-ir-157", "iso8859-10", "iso885910", "l6", "latin6"],
    "80-a0 104 112 122 12a 128 136 a7 13b 110 160 166 17d ad 16a 14a b0 105 113 123 12b 129 " ++
      "137 b7 13c 111 161 167 17e 2015 16b 14b 100 c1-c6 12e 10c c9 118 cb 116 cd-d0 145 14c " ++
      "d3-d6 168 d8 172 da-df 101 e1-e6 12f 10d e9 119 eb 117 ed-f0 146 14d f3-f6 169 f8 173 " ++
      "fa-fe 138"),
  (["iso-8859-13", "iso8859-13", "iso885913"],
    "80-a0 201d a2-a4 201e a6-a7 d8 a9 156 ab-ae c6 b0-b3 201c b5-b7 f8 b9 157 bb-be e6 104 " ++
      "12e 100 106 c4-c5 118 112 10c c9 179 116 122 136 12a 13b 160 143 145 d3 14c d5-d7 172 " ++
      "141 15a 16a dc 17b 17d df 105 12f 101 107 e4-e5 119 113 10d e9 17a 117 123 137 12b 13c " ++
      "161 144 146 f3 14d f5-f7 173 142 15b 16b fc 17c 17e 2019"),
  (["iso-8859-14", "iso8859-14", "iso885914"],
    "80-a0 1e02-1e03 a3 10a-10b 1e0a a7 1e80 a9 1e82 1e0b 1ef2 ad-ae 178 1e1e-1e1f 120-121 " ++
      "1e40-1e41 b6 1e56 1e81 1e57 1e83 1e60 1ef3 1e84-1e85 1e61 c0-cf 174 d1-d6 1e6a d8-dd " ++
      "176 df-ef 175 f1-f6 1e6b f8-fd 177 ff"),
  (["iso-8859-15", "csisolatin9", "iso8859-15", "iso885915", "iso_8859-15", "l9"],
    "80-a3 20ac a5 160 a7 161 a9-b3 17d b5-b7 17e b9-bb 152-153 178 bf-ff"),
  (["iso-8859-16"],
    "80-a0 104-105 141 20ac 201e 160 a7 161 a9 218 ab 179 ad 17a-17b b0-b1 10c 142 17d 201d " ++
      "b6-b7 17e 10d 219 bb 152-153 178 17c c0-c2 102 c4 106 c6-cf 110 143 d2-d4 150 d6 15a " ++
      "170 d9-dc 118 21a df-e2 103 e4 107 e6-ef 111 144 f2-f4 151 f6 15b 171 f9-fc 119 21b ff"),
  (["koi8-r", "cskoi8r", "koi", "koi8", "koi8_r"],
    "2500 2502 250c 2510 2514 2518 251c 2524 252c 2534 253c 2580 2584 2588 258c 2590-2593 " ++
      "2320 25a0 2219-221a 2248 2264-2265 a0 2321 b0 b2 b7 f7 2550-2552 451 2553-2561 401 " ++
      "2562-256c a9 44e 430-431 446 434-435 444 433 445 438-43f 44f 440-443 436 432 44c 44b " ++
      "437 448 44d 449 447 44a 42e 410-411 426 414-415 424 413 425 418-41f 42f 420-423 416 412 " ++
      "42c 42b 417 428 42d 429 427 42a"),
  (["koi8-u", "koi8-ru"],
    "2500 2502 250c 2510 2514 2518 251c 2524 252c 2534 253c 2580 2584 2588 258c 2590-2593 " ++
      "2320 25a0 2219-221a 2248 2264-2265 a0 2321 b0 b2 b7 f7 2550-2552 451 454 2554 456-457 " ++
      "2557-255b 491 45e 255e-2561 401 404 2563 406-407 2566-256a 490 40e a9 44e 430-431 446 " ++
      "434-435 444 433 445 438-43f 44f 440-443 436 432 44c 44b 437 448 44d 449 447 44a 42e " ++
      "410-411 426 414-415 424 413 425 418-41f 42f 420-423 416 412 42c 42b 417 428 42d 429 427 " ++
      "42a"),
  (["macintosh", "csmacintosh", "mac", "x-mac-roman"],
    "c4-c5 c7 c9 d1 d6 dc e1 e0 e2 e4 e3 e5 e7 e9 e8 ea-eb ed ec ee-ef f1 f3 f2 f4 f6 f5 fa " ++
      "f9 fb-fc 2020 b0 a2-a3 a7 2022 b6 df ae a9 2122 b4 a8 2260 c6 d8 221e b1 2264-2265 a5 " ++
      "b5 2202 2211 220f 3c0 222b aa ba 3a9 e6 f8 bf a1 ac 221a 192 2248 2206 ab bb 2026 a0 c0 " ++
      "c3 d5 152-153 2013-2014 201c-201d 2018-2019 f7 25ca ff 178 2044 20ac 2039-203a " ++
      "fb01-fb02 2021 b7 201a 201e 2030 c2 ca c1 cb c8 cd-cf cc d3-d4 f8ff d2 da-db d9 131 2c6 " ++
      "2dc af 2d8-2da b8 2dd 2db 2c7"),
  (["windows-874", "dos-874", "iso-8859-11", "iso8859-11", "iso885911", "tis-620"],
    "20ac 81-84 2026 86-90 2018-2019 201c-201d 2022 2013-2014 98-a0 e01-e3a fffd fffd fffd " ++
      "fffd e3f-e5b fffd fffd fffd fffd"),
  (["windows-1250", "cp1250", "x-cp1250"],
    "20ac 81 201a 83 201e 2026 2020-2021 88 2030 160 2039 15a 164 17d 179 90 2018-2019 " ++
      "201c-201d 2022 2013-2014 98 2122 161 203a 15b 165 17e 17a a0 2c7 2d8 141 a4 104 a6-a9 " ++
      "15e ab-ae 17b b0-b1 2db 142 b4-b8 105 15f bb 13d 2dd 13e 17c 154 c1-c2 102 c4 139 106 " ++
      "c7 10c c9 118 cb 11a cd-ce 10e 110 143 147 d3-d4 150 d6-d7 158 16e da 170 dc-dd 162 df " ++
      "155 e1-e2 103 e4 13a 107 e7 10d e9 119 eb 11b ed-ee 10f 111 144 148 f3-f4 151 f6-f7 159 " ++
      "16f fa 171 fc-fd 163 2d9"),
  (["windows-1251", "cp1251", "x-cp1251"],
    "402-403 201a 453 201e 2026 2020-2021 20ac 2030 409 2039 40a 40c 40b 40f 452 2018-2019 " ++
      "201c-201d 2022 2013-2014 98 2122 459 203a 45a 45c 45b 45f a0 40e 45e 408 a4 490 a6-a7 " ++
      "401 a9 404 ab-ae 407 b0-b1 406 456 491 b5-b7 451 2116 454 bb 458 405 455 457 410-44f"),
  (["windows-1252", "ansi_x3.4-1968", "ascii", "cp1252", "cp819", "csisolatin1", "ibm819",
    "iso-8859-1", "iso-ir-100", "iso8859-1", "iso88591", "iso_8859-1", "iso_8859-1:1987", "l1",
    "latin1", "us-ascii", "x-cp1252"],
    "20ac 81 201a 192 201e 2026 2020-2021 2c6 2030 160 2039 152 8d 17d 8f-90 2018-2019 " ++
      "201c-201d 2022 2013-2014 2dc 2122 161 203a 153 9d 17e 178 a0-ff"),
  (["windows-1253", "cp1253", "x-cp1253"],
    "20ac 81 201a 192 201e 2026 2020-2021 88 2030 8a 2039 8c-90 2018-2019 201c-201d 2022 " ++
      "2013-2014 98 2122 9a 203a 9c-a0 385-386 a3-a9 fffd ab-ae 2015 b0-b3 384 b5-b7 388-38a " ++
      "bb 38c bd 38e-3a1 fffd 3a3-3ce fffd"),
  (["windows-1254", "cp1254", "csisolatin5", "iso-8859-9", "iso-ir-148", "iso8859-9",
    "iso88599", "iso_8859-9", "iso_8859-9:1989", "l5", "latin5", "x-cp1254"],
    "20ac 81 201a 192 201e 2026 2020-2021 2c6 2030 160 2039 152 8d-90 2018-2019 201c-201d " ++
      "2022 2013-2014 2dc 2122 161 203a 153 9d-9e 178 a0-cf 11e d1-dc 130 15e df-ef 11f f1-fc " ++
      "131 15f ff"),
  (["windows-1255", "cp1255", "x-cp1255"],
    "20ac 81 201a 192 201e 2026 2020-2021 2c6 2030 8a 2039 8c-90 2018-2019 201c-201d 2022 " ++
      "2013-2014 2dc 2122 9a 203a 9c-a3 20aa a5-a9 d7 ab-b9 f7 bb-bf 5b0-5c3 5f0-5f4 fffd fffd " ++
      "fffd fffd fffd fffd fffd 5d0-5ea fffd fffd 200e-200f fffd"),
  (["windows-1256", "cp1256", "x-cp1256"],
    "20ac 67e 201a 192 201e 2026 2020-2021 2c6 2030 679 2039 152 686 698 688 6af 2018-2019 " ++
      "201c-201d 2022 2013-2014 6a9 2122 691 203a 153 200c-200d 6ba a0 60c a2-a9 6be ab-b9 61b " ++
      "bb-be 61f 6c1 621-636 d7 637-63a 640-643 e0 644 e2 645-648 e7-eb 649-64a ee-ef 64b-64e " ++
      "f4 64f-650 f7 651 f9 652 fb-fc 200e-200f 6d2"),
  (["windows-1257", "cp1257", "x-cp1257"],
    "20ac 81 201a 83 201e 2026 2020-2021 88 2030 8a 2039 8c a8 2c7 b8 90 2018-2019 201c-201d " ++
      "2022 2013-2014 98 2122 9a 203a 9c af 2db 9f-a0 fffd a2-a4 fffd a6-a7 d8 a9 156 ab-ae c6 " ++
      "b0-b7 f8 b9 157 bb-be e6 104 12e 100 106 c4-c5 118 112 10c c9 179 116 122 136 12a 13b " ++
      "160 143 145 d3 14c d5-d7 172 141 15a 16a dc 17b 17d df 105 12f 101 107 e4-e5 119 113 " ++
      "10d e9 17a 117 123 137 12b 13c 161 144 146 f3 14d f5-f7 173 142 15b 16b fc 17c 17e 2d9"),
  (["windows-1258", "cp1258", "x-cp1258"],
    "20ac 81 201a 192 201e 2026 2020-2021 2c6 2030 8a 2039 152 8d-90 2018-2019 201c-201d " ++
      "2022 2013-2014 2dc 2122 9a 203a 153 9d-9e 178 a0-c2 102 c4-cb 300 cd-cf 110 d1 309 " ++
      "d3-d4 1a0 d6-dc 1af 303 df-e2 103 e4-eb 301 ed-ef 111 f1 323 f3-f4 1a1 f6-fc 1b0 20ab " ++
      "ff"),
  (["x-mac-cyrillic", "x-mac-ukrainian"],
    "410-42f 2020 b0 490 a3 a7 2022 b6 406 ae a9 2122 402 452 2260 403 453 221e b1 2264-2265 " ++
      "456 b5 491 408 404 454 407 457 409 459 40a 45a 458 405 ac 221a 192 2248 2206 ab bb 2026 " ++
      "a0 40b 45b 40c 45c 455 2013-2014 201c-201d 2018-2019 f7 201e 40e 45e 40f 45f 2116 401 " ++
      "451 44f 430-44e 20ac")]

end Prospector.Web

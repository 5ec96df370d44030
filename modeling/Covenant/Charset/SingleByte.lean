import Covenant.CodeSet

namespace Covenant.Charset

/-- The single-byte charsets, each with the bytes of the code points it has. -/
def singleByteTexts : List (String × String) :=
  [("ascii", "0-7f>0"),
   ("cp037", "0-3>0 4>37 5-7>2d 8>16 9>5 a>25 b-13>b 14-15>3c 16>32 17>26 18-19>18 1a>3f 1b>27 1c-1f>1c
    20>40 21>5a 22>7f 23>7b 24>5b 25>6c 26>50 27>7d 28>4d 29>5d 2a>5c 2b>4e 2c>6b 2d>60 2e>4b
    2f>61 30-39>f0 3a>7a 3b>5e 3c>4c 3d>7e 3e-3f>6e 40>7c 41-49>c1 4a-52>d1 53-5a>e2 5b>ba
    5c>e0 5d>bb 5e>b0 5f>6d 60>79 61-69>81 6a-72>91 73-7a>a2 7b>c0 7c>4f 7d>d0 7e>a1 7f>7
    80-84>20 85>15 86>6 87>17 88-8c>28 8d-8e>9 8f>1b 90-91>30 92>1a 93-96>33 97>8 98-9b>38 9c>4
    9d>14 9e>3e 9f>ff a0>41 a1>aa a2>4a a3>b1 a4>9f a5>b2 a6>6a a7>b5 a8>bd a9>b4 aa>9a ab>8a
    ac>5f ad>ca ae>af af>bc b0>90 b1>8f b2>ea b3>fa b4>be b5>a0 b6>b6 b7>b3 b8>9d b9>da ba>9b
    bb>8b bc-be>b7 bf>ab c0-c1>64 c2>62 c3>66 c4>63 c5>67 c6>9e c7>68 c8>74 c9-cb>71 cc>78
    cd-cf>75 d0>ac d1>69 d2-d3>ed d4>eb d5>ef d6>ec d7>bf d8>80 d9-da>fd db-dc>fb dd-de>ad
    df>59 e0-e1>44 e2>42 e3>46 e4>43 e5>47 e6>9c e7>48 e8>54 e9-eb>51 ec>58 ed-ef>55 f0>8c
    f1>49 f2-f3>cd f4>cb f5>cf f6>cc f7>e1 f8>70 f9-fa>dd fb-fc>db fd-fe>8d ff>df"),
   ("cp1006", "0-a0>0 ad>ad 60c>ab 61b>ac 61f>ae 6f0-6f9>a1 fb56>b5 fb58>b6 fb66>ba fb68>bb fb7a>c0
    fb7c>c1 fb84>c7 fb8a>cc fb8c>ca fb92>e5 fb94>e6 fb9e>ec fba6>f1 fba8-fbaa>f2 fbae>fd
    fbb0>fc fe7c-fe7d>fe fe80>f5 fe81>af fe85>ef fe89-fe8b>f6 fe8d>b0 fe8e-fe8f>b2 fe91>b4
    fe93>b7 fe95>b8 fe97>b9 fe99>bc fe9b>bd fe9d>be fe9f>bf fea1>c2 fea3>c3 fea5>c4 fea7>c5
    fea9>c6 feab>c8 fead>c9 feaf>cb feb1>cd feb3>ce feb5>cf feb7>d0 feb9>d1 febb>d2 febd>d3
    febf>d4 fec1>d5 fec5>d6 fec9-fed1>d7 fed3>e0 fed5>e1 fed7>e2 fed9>e3 fedb>e4 fedd>e7
    fedf-fee1>e8 fee3>eb fee5>ed fee7>ee feed>f0 fef1-fef3>f9"),
   ("cp1026", "0-3>0 4>37 5-7>2d 8>16 9>5 a>25 b-13>b 14-15>3c 16>32 17>26 18-19>18 1a>3f 1b>27 1c-1f>1c
    20>40 21>4f 22>fc 23>ec 24>ad 25>6c 26>50 27>7d 28>4d 29>5d 2a>5c 2b>4e 2c>6b 2d>60 2e>4b
    2f>61 30-39>f0 3a>7a 3b>5e 3c>4c 3d>7e 3e-3f>6e 40>ae 41-49>c1 4a-52>d1 53-5a>e2 5b>68
    5c>dc 5d>ac 5e>5f 5f>6d 60>8d 61-69>81 6a-72>91 73-7a>a2 7b>48 7c>bb 7d>8c 7e>cc 7f>7
    80-84>20 85>15 86>6 87>17 88-8c>28 8d-8e>9 8f>1b 90-91>30 92>1a 93-96>33 97>8 98-9b>38 9c>4
    9d>14 9e>3e 9f>ff a0>41 a1>aa a2-a3>b0 a4>9f a5>b2 a6>8e a7>b5 a8>bd a9>b4 aa>9a ab>8a
    ac>ba ad>ca ae>af af>bc b0>90 b1>8f b2>ea b3>fa b4>be b5>a0 b6>b6 b7>b3 b8>9d b9>da ba>9b
    bb>8b bc-be>b7 bf>ab c0-c1>64 c2>62 c3>66 c4>63 c5>67 c6>9e c7>4a c8>74 c9-cb>71 cc>78
    cd-cf>75 d1>69 d2-d3>ed d4>eb d5>ef d6>7b d7>bf d8>80 d9-da>fd db>fb dc>7f df>59 e0-e1>44
    e2>42 e3>46 e4>43 e5>47 e6>9c e7>c0 e8>54 e9-eb>51 ec>58 ed-ef>55 f1>49 f2-f3>cd f4>cb
    f5>cf f6>a1 f7>e1 f8>70 f9-fa>dd fb>db fc>e0 ff>df 11e>5a 11f>d0 130>5b 131>79 15e>7c
    15f>6a"),
   ("cp1125", "0-7f>0 a0>ff a4>fd b7>fa 401>f0 404>f4 406>f6 407>f8 410-43f>80 440-44f>e0 451>f1 454>f5
    456>f7 457>f9 490-491>f2 2116>fc 221a>fb 2500>c4 2502>b3 250c>da 2510>bf 2514>c0 2518>d9
    251c>c3 2524>b4 252c>c2 2534>c1 253c>c5 2550>cd 2551>ba 2552-2553>d5 2554>c9 2555>b8
    2556>b7 2557>bb 2558>d4 2559>d3 255a>c8 255b>be 255c>bd 255d>bc 255e-255f>c6 2560>cc
    2561-2562>b5 2563>b9 2564-2565>d1 2566>cb 2567-2568>cf 2569>ca 256a>d8 256b>d7 256c>ce
    2580>df 2584>dc 2588>db 258c>dd 2590>de 2591-2593>b0 25a0>fe"),
   ("cp1140", "0-3>0 4>37 5-7>2d 8>16 9>5 a>25 b-13>b 14-15>3c 16>32 17>26 18-19>18 1a>3f 1b>27 1c-1f>1c
    20>40 21>5a 22>7f 23>7b 24>5b 25>6c 26>50 27>7d 28>4d 29>5d 2a>5c 2b>4e 2c>6b 2d>60 2e>4b
    2f>61 30-39>f0 3a>7a 3b>5e 3c>4c 3d>7e 3e-3f>6e 40>7c 41-49>c1 4a-52>d1 53-5a>e2 5b>ba
    5c>e0 5d>bb 5e>b0 5f>6d 60>79 61-69>81 6a-72>91 73-7a>a2 7b>c0 7c>4f 7d>d0 7e>a1 7f>7
    80-84>20 85>15 86>6 87>17 88-8c>28 8d-8e>9 8f>1b 90-91>30 92>1a 93-96>33 97>8 98-9b>38 9c>4
    9d>14 9e>3e 9f>ff a0>41 a1>aa a2>4a a3>b1 a5>b2 a6>6a a7>b5 a8>bd a9>b4 aa>9a ab>8a ac>5f
    ad>ca ae>af af>bc b0>90 b1>8f b2>ea b3>fa b4>be b5>a0 b6>b6 b7>b3 b8>9d b9>da ba>9b bb>8b
    bc-be>b7 bf>ab c0-c1>64 c2>62 c3>66 c4>63 c5>67 c6>9e c7>68 c8>74 c9-cb>71 cc>78 cd-cf>75
    d0>ac d1>69 d2-d3>ed d4>eb d5>ef d6>ec d7>bf d8>80 d9-da>fd db-dc>fb dd-de>ad df>59
    e0-e1>44 e2>42 e3>46 e4>43 e5>47 e6>9c e7>48 e8>54 e9-eb>51 ec>58 ed-ef>55 f0>8c f1>49
    f2-f3>cd f4>cb f5>cf f6>cc f7>e1 f8>70 f9-fa>dd fb-fc>db fd-fe>8d ff>df 20ac>9f"),
   ("cp1250", "0-7f>0 a0>a0 a4>a4 a6-a9>a6 ab-ae>ab b0-b1>b0 b4-b8>b4 bb>bb c1-c2>c1 c4>c4 c7>c7 c9>c9
    cb>cb cd-ce>cd d3-d4>d3 d6-d7>d6 da>da dc-dd>dc df>df e1-e2>e1 e4>e4 e7>e7 e9>e9 eb>eb
    ed-ee>ed f3-f4>f3 f6-f7>f6 fa>fa fc-fd>fc 102>c3 103>e3 104>a5 105>b9 106>c6 107>e6 10c>c8
    10d>e8 10e>cf 10f>ef 110>d0 111>f0 118>ca 119>ea 11a>cc 11b>ec 139>c5 13a>e5 13d>bc 13e>be
    141>a3 142>b3 143>d1 144>f1 147>d2 148>f2 150>d5 151>f5 154>c0 155>e0 158>d8 159>f8 15a>8c
    15b>9c 15e>aa 15f>ba 160>8a 161>9a 162>de 163>fe 164>8d 165>9d 16e>d9 16f>f9 170>db 171>fb
    179>8f 17a>9f 17b>af 17c>bf 17d>8e 17e>9e 2c7>a1 2d8>a2 2d9>ff 2db>b2 2dd>bd 2013-2014>96
    2018-2019>91 201a>82 201c-201d>93 201e>84 2020-2021>86 2022>95 2026>85 2030>89 2039>8b
    203a>9b 20ac>80 2122>99"),
   ("cp1251", "0-7f>0 a0>a0 a4>a4 a6-a7>a6 a9>a9 ab-ae>ab b0-b1>b0 b5-b7>b5 bb>bb 401>a8 402-403>80 404>aa
    405>bd 406>b2 407>af 408>a3 409>8a 40a>8c 40b>8e 40c>8d 40e>a1 40f>8f 410-44f>c0 451>b8
    452>90 453>83 454>ba 455>be 456>b3 457>bf 458>bc 459>9a 45a>9c 45b>9e 45c>9d 45e>a2 45f>9f
    490>a5 491>b4 2013-2014>96 2018-2019>91 201a>82 201c-201d>93 201e>84 2020-2021>86 2022>95
    2026>85 2030>89 2039>8b 203a>9b 20ac>88 2116>b9 2122>99"),
   ("cp1252", "0-7f>0 a0-ff>a0 152>8c 153>9c 160>8a 161>9a 178>9f 17d>8e 17e>9e 192>83 2c6>88 2dc>98
    2013-2014>96 2018-2019>91 201a>82 201c-201d>93 201e>84 2020-2021>86 2022>95 2026>85 2030>89
    2039>8b 203a>9b 20ac>80 2122>99"),
   ("cp1253", "0-7f>0 a0>a0 a3-a9>a3 ab-ae>ab b0-b3>b0 b5-b7>b5 bb>bb bd>bd 192>83 384>b4 385-386>a1
    388-38a>b8 38c>bc 38e-3a1>be 3a3-3ce>d3 2013-2014>96 2015>af 2018-2019>91 201a>82
    201c-201d>93 201e>84 2020-2021>86 2022>95 2026>85 2030>89 2039>8b 203a>9b 20ac>80 2122>99"),
   ("cp1254", "0-7f>0 a0-cf>a0 d1-dc>d1 df-ef>df f1-fc>f1 ff>ff 11e>d0 11f>f0 130>dd 131>fd 152>8c 153>9c
    15e>de 15f>fe 160>8a 161>9a 178>9f 192>83 2c6>88 2dc>98 2013-2014>96 2018-2019>91 201a>82
    201c-201d>93 201e>84 2020-2021>86 2022>95 2026>85 2030>89 2039>8b 203a>9b 20ac>80 2122>99"),
   ("cp1255", "0-7f>0 a0-a3>a0 a5-a9>a5 ab-b9>ab bb-bf>bb d7>aa f7>ba 192>83 2c6>88 2dc>98 5b0-5b9>c0
    5bb-5c3>cb 5d0-5ea>e0 5f0-5f4>d4 200e-200f>fd 2013-2014>96 2018-2019>91 201a>82
    201c-201d>93 201e>84 2020-2021>86 2022>95 2026>85 2030>89 2039>8b 203a>9b 20aa>a4 20ac>80
    2122>99"),
   ("cp1256", "0-7f>0 a0>a0 a2-a9>a2 ab-b9>ab bb-be>bb d7>d7 e0>e0 e2>e2 e7-eb>e7 ee-ef>ee f4>f4 f7>f7
    f9>f9 fb-fc>fb 152>8c 153>9c 192>83 2c6>88 60c>a1 61b>ba 61f>bf 621-636>c1 637-63a>d8
    640-643>dc 644>e1 645-648>e3 649-64a>ec 64b-64e>f0 64f-650>f5 651>f8 652>fa 679>8a 67e>81
    686>8d 688>8f 691>9a 698>8e 6a9>98 6af>90 6ba>9f 6be>aa 6c1>c0 6d2>ff 200c-200d>9d
    200e-200f>fd 2013-2014>96 2018-2019>91 201a>82 201c-201d>93 201e>84 2020-2021>86 2022>95
    2026>85 2030>89 2039>8b 203a>9b 20ac>80 2122>99"),
   ("cp1257", "0-7f>0 a0>a0 a2-a4>a2 a6-a7>a6 a8>8d a9>a9 ab-ae>ab af>9d b0-b7>b0 b8>8f b9>b9 bb-be>bb
    c4-c5>c4 c6>af c9>c9 d3>d3 d5-d7>d5 d8>a8 dc>dc df>df e4-e5>e4 e6>bf e9>e9 f3>f3 f5-f7>f5
    f8>b8 fc>fc 100>c2 101>e2 104>c0 105>e0 106>c3 107>e3 10c>c8 10d>e8 112>c7 113>e7 116>cb
    117>eb 118>c6 119>e6 122>cc 123>ec 12a>ce 12b>ee 12e>c1 12f>e1 136>cd 137>ed 13b>cf 13c>ef
    141>d9 142>f9 143>d1 144>f1 145>d2 146>f2 14c>d4 14d>f4 156>aa 157>ba 15a>da 15b>fa 160>d0
    161>f0 16a>db 16b>fb 172>d8 173>f8 179>ca 17a>ea 17b>dd 17c>fd 17d>de 17e>fe 2c7>8e 2d9>ff
    2db>9e 2013-2014>96 2018-2019>91 201a>82 201c-201d>93 201e>84 2020-2021>86 2022>95 2026>85
    2030>89 2039>8b 203a>9b 20ac>80 2122>99"),
   ("cp1258", "0-7f>0 a0-c2>a0 c4-cb>c4 cd-cf>cd d1>d1 d3-d4>d3 d6-dc>d6 df-e2>df e4-eb>e4 ed-ef>ed f1>f1
    f3-f4>f3 f6-fc>f6 ff>ff 102>c3 103>e3 110>d0 111>f0 152>8c 153>9c 178>9f 192>83 1a0>d5
    1a1>f5 1af>dd 1b0>fd 2c6>88 2dc>98 300>cc 301>ec 303>de 309>d2 323>f2 2013-2014>96
    2018-2019>91 201a>82 201c-201d>93 201e>84 2020-2021>86 2022>95 2026>85 2030>89 2039>8b
    203a>9b 20ab>fe 20ac>80 2122>99"),
   ("cp273", "0-3>0 4>37 5-7>2d 8>16 9>5 a>25 b-13>b 14-15>3c 16>32 17>26 18-19>18 1a>3f 1b>27 1c-1f>1c
    20>40 21>4f 22>7f 23>7b 24>5b 25>6c 26>50 27>7d 28>4d 29>5d 2a>5c 2b>4e 2c>6b 2d>60 2e>4b
    2f>61 30-39>f0 3a>7a 3b>5e 3c>4c 3d>7e 3e-3f>6e 40>b5 41-49>c1 4a-52>d1 53-5a>e2 5b>63
    5c>ec 5d>fc 5e>5f 5f>6d 60>79 61-69>81 6a-72>91 73-7a>a2 7b>43 7c>bb 7d>dc 7e>59 7f>7
    80-84>20 85>15 86>6 87>17 88-8c>28 8d-8e>9 8f>1b 90-91>30 92>1a 93-96>33 97>8 98-9b>38 9c>4
    9d>14 9e>3e 9f>ff a0>41 a1>aa a2-a3>b0 a4>9f a5>b2 a6>cc a7>7c a8>bd a9>b4 aa>9a ab>8a
    ac>ba ad>ca ae>af b0>90 b1>8f b2>ea b3>fa b4>be b5>a0 b6>b6 b7>b3 b8>9d b9>da ba>9b bb>8b
    bc-be>b7 bf>ab c0-c1>64 c2>62 c3>66 c4>4a c5>67 c6>9e c7>68 c8>74 c9-cb>71 cc>78 cd-cf>75
    d0>ac d1>69 d2-d3>ed d4>eb d5>ef d6>e0 d7>bf d8>80 d9-da>fd db>fb dc>5a dd-de>ad df>a1
    e0-e1>44 e2>42 e3>46 e4>c0 e5>47 e6>9c e7>48 e8>54 e9-eb>51 ec>58 ed-ef>55 f0>8c f1>49
    f2-f3>cd f4>cb f5>cf f6>6a f7>e1 f8>70 f9-fa>dd fb>db fc>d0 fd-fe>8d ff>df 203e>bc"),
   ("cp424", "0-3>0 4>37 5-7>2d 8>16 9>5 a>25 b-13>b 14-15>3c 16>32 17>26 18-19>18 1a>3f 1b>27 1c-1f>1c
    20>40 21>5a 22>7f 23>7b 24>5b 25>6c 26>50 27>7d 28>4d 29>5d 2a>5c 2b>4e 2c>6b 2d>60 2e>4b
    2f>61 30-39>f0 3a>7a 3b>5e 3c>4c 3d>7e 3e-3f>6e 40>7c 41-49>c1 4a-52>d1 53-5a>e2 5b>ba
    5c>e0 5d>bb 5e>b0 5f>6d 60>79 61-69>81 6a-72>91 73-7a>a2 7b>c0 7c>4f 7d>d0 7e>a1 7f>7
    80-84>20 85>15 86>6 87>17 88-8c>28 8d-8e>9 8f>1b 90-91>30 92>1a 93-96>33 97>8 98-9b>38 9c>4
    9d>14 9e>3e 9f>ff a0>74 a2>4a a3>b1 a4>9f a5>b2 a6>6a a7>b5 a8>bd a9>b4 ab>8a ac>5f ad>ca
    ae>af af>bc b0>90 b1>8f b2>ea b3>fa b4>be b5>a0 b6>b6 b7>b3 b8>9d b9>da bb>8b bc-be>b7
    d7>bf f7>e1 5d0-5d8>41 5d9-5e1>51 5e2-5e9>62 5ea>71 2017>78"),
   ("cp437", "0-7f>0 a0>ff a1>ad a2-a3>9b a5>9d aa>a6 ab>ae ac>aa b0>f8 b1>f1 b2>fd b5>e6 b7>fa ba>a7
    bb>af bc>ac bd>ab bf>a8 c4-c5>8e c6>92 c7>80 c9>90 d1>a5 d6>99 dc>9a df>e1 e0>85 e1>a0
    e2>83 e4>84 e5>86 e6>91 e7>87 e8>8a e9>82 ea-eb>88 ec>8d ed>a1 ee>8c ef>8b f1>a4 f2>95
    f3>a2 f4>93 f6>94 f7>f6 f9>97 fa>a3 fb>96 fc>81 ff>98 192>9f 393>e2 398>e9 3a3>e4 3a6>e8
    3a9>ea 3b1>e0 3b4>eb 3b5>ee 3c0>e3 3c3>e5 3c4>e7 3c6>ed 207f>fc 20a7>9e 2219>f9 221a>fb
    221e>ec 2229>ef 2248>f7 2261>f0 2264>f3 2265>f2 2310>a9 2320-2321>f4 2500>c4 2502>b3
    250c>da 2510>bf 2514>c0 2518>d9 251c>c3 2524>b4 252c>c2 2534>c1 253c>c5 2550>cd 2551>ba
    2552-2553>d5 2554>c9 2555>b8 2556>b7 2557>bb 2558>d4 2559>d3 255a>c8 255b>be 255c>bd
    255d>bc 255e-255f>c6 2560>cc 2561-2562>b5 2563>b9 2564-2565>d1 2566>cb 2567-2568>cf 2569>ca
    256a>d8 256b>d7 256c>ce 2580>df 2584>dc 2588>db 258c>dd 2590>de 2591-2593>b0 25a0>fe"),
   ("cp500", "0-3>0 4>37 5-7>2d 8>16 9>5 a>25 b-13>b 14-15>3c 16>32 17>26 18-19>18 1a>3f 1b>27 1c-1f>1c
    20>40 21>4f 22>7f 23>7b 24>5b 25>6c 26>50 27>7d 28>4d 29>5d 2a>5c 2b>4e 2c>6b 2d>60 2e>4b
    2f>61 30-39>f0 3a>7a 3b>5e 3c>4c 3d>7e 3e-3f>6e 40>7c 41-49>c1 4a-52>d1 53-5a>e2 5b>4a
    5c>e0 5d>5a 5e>5f 5f>6d 60>79 61-69>81 6a-72>91 73-7a>a2 7b>c0 7c>bb 7d>d0 7e>a1 7f>7
    80-84>20 85>15 86>6 87>17 88-8c>28 8d-8e>9 8f>1b 90-91>30 92>1a 93-96>33 97>8 98-9b>38 9c>4
    9d>14 9e>3e 9f>ff a0>41 a1>aa a2-a3>b0 a4>9f a5>b2 a6>6a a7>b5 a8>bd a9>b4 aa>9a ab>8a
    ac>ba ad>ca ae>af af>bc b0>90 b1>8f b2>ea b3>fa b4>be b5>a0 b6>b6 b7>b3 b8>9d b9>da ba>9b
    bb>8b bc-be>b7 bf>ab c0-c1>64 c2>62 c3>66 c4>63 c5>67 c6>9e c7>68 c8>74 c9-cb>71 cc>78
    cd-cf>75 d0>ac d1>69 d2-d3>ed d4>eb d5>ef d6>ec d7>bf d8>80 d9-da>fd db-dc>fb dd-de>ad
    df>59 e0-e1>44 e2>42 e3>46 e4>43 e5>47 e6>9c e7>48 e8>54 e9-eb>51 ec>58 ed-ef>55 f0>8c
    f1>49 f2-f3>cd f4>cb f5>cf f6>cc f7>e1 f8>70 f9-fa>dd fb-fc>db fd-fe>8d ff>df"),
   ("cp720", "0-81>0 84>84 86>86 8d-90>8d a0>ff a3>9c a4>94 ab>ae b0>f8 b2>fd b5>e6 b7>fa bb>af e0>85
    e2>83 e7>87 e8>8a e9>82 ea-eb>88 ee>8c ef>8b f4>93 f9>97 fb>96 621-624>98 625-635>9d
    636-63a>e0 640>95 641>e5 642-64a>e7 64b-650>f1 651-652>91 207f>fc 2219>f9 221a>fb 2248>f7
    2261>f0 2500>c4 2502>b3 250c>da 2510>bf 2514>c0 2518>d9 251c>c3 2524>b4 252c>c2 2534>c1
    253c>c5 2550>cd 2551>ba 2552-2553>d5 2554>c9 2555>b8 2556>b7 2557>bb 2558>d4 2559>d3
    255a>c8 255b>be 255c>bd 255d>bc 255e-255f>c6 2560>cc 2561-2562>b5 2563>b9 2564-2565>d1
    2566>cb 2567-2568>cf 2569>ca 256a>d8 256b>d7 256c>ce 2580>df 2584>dc 2588>db 258c>dd
    2590>de 2591-2593>b0 25a0>fe"),
   ("cp737", "0-7f>0 a0>ff b0>f8 b1>f1 b2>fd b7>fa f7>f6 386>ea 388-38a>eb 38c>ee 38e-38f>ef 391-3a1>80
    3a3-3a9>91 3aa-3ab>f4 3ac-3ae>e1 3af>e5 3b1-3c1>98 3c2>aa 3c3>a9 3c4-3c8>ab 3c9>e0 3ca>e4
    3cb>e8 3cc-3cd>e6 3ce>e9 207f>fc 2219>f9 221a>fb 2248>f7 2264>f3 2265>f2 2500>c4 2502>b3
    250c>da 2510>bf 2514>c0 2518>d9 251c>c3 2524>b4 252c>c2 2534>c1 253c>c5 2550>cd 2551>ba
    2552-2553>d5 2554>c9 2555>b8 2556>b7 2557>bb 2558>d4 2559>d3 255a>c8 255b>be 255c>bd
    255d>bc 255e-255f>c6 2560>cc 2561-2562>b5 2563>b9 2564-2565>d1 2566>cb 2567-2568>cf 2569>ca
    256a>d8 256b>d7 256c>ce 2580>df 2584>dc 2588>db 258c>dd 2590>de 2591-2593>b0 25a0>fe"),
   ("cp775", "0-7f>0 a0>ff a2>96 a3>9c a4>9f a6>a7 a7>f5 a9>a8 ab>ae ac>aa ad>f0 ae>a9 b0>f8 b1>f1 b2>fd
    b3>fc b5>e6 b6>f4 b7>fa b9>fb bb>af bc>ac bd>ab be>f3 c4-c5>8e c6>92 c9>90 d3>e0 d5>e5
    d6>99 d7>9e d8>9d dc>9a df>e1 e4>84 e5>86 e6>91 e9>82 f3>a2 f5>e4 f6>94 f7>f6 f8>9b fc>81
    100>a0 101>83 104>b5 105>d0 106>80 107>87 10c>b6 10d>d1 112>ed 113>89 116>b8 117>d3 118>b7
    119>d2 122>95 123>85 12a>a1 12b>8c 12e>bd 12f>d4 136-137>e8 13b-13c>ea 141>ad 142>88 143>e3
    144>e7 145>ee 146>ec 14c>e2 14d>93 156-157>8a 15a-15b>97 160>be 161>d5 16a>c7 16b>d7 172>c6
    173>d6 179>8d 17a>a5 17b-17c>a3 17d>cf 17e>d8 2019>ef 201c>f2 201d>a6 201e>f7 2219>f9
    2500>c4 2502>b3 250c>da 2510>bf 2514>c0 2518>d9 251c>c3 2524>b4 252c>c2 2534>c1 253c>c5
    2550>cd 2551>ba 2554>c9 2557>bb 255a>c8 255d>bc 2560>cc 2563>b9 2566>cb 2569>ca 256c>ce
    2580>df 2584>dc 2588>db 258c>dd 2590>de 2591-2593>b0 25a0>fe"),
   ("cp850", "0-7f>0 a0>ff a1>ad a2>bd a3>9c a4>cf a5>be a6>dd a7>f5 a8>f9 a9>b8 aa>a6 ab>ae ac>aa ad>f0
    ae>a9 af>ee b0>f8 b1>f1 b2>fd b3>fc b4>ef b5>e6 b6>f4 b7>fa b8>f7 b9>fb ba>a7 bb>af bc>ac
    bd>ab be>f3 bf>a8 c0>b7 c1-c2>b5 c3>c7 c4-c5>8e c6>92 c7>80 c8>d4 c9>90 ca-cb>d2 cc>de
    cd-cf>d6 d0>d1 d1>a5 d2>e3 d3>e0 d4>e2 d5>e5 d6>99 d7>9e d8>9d d9>eb da-db>e9 dc>9a dd>ed
    de>e8 df>e1 e0>85 e1>a0 e2>83 e3>c6 e4>84 e5>86 e6>91 e7>87 e8>8a e9>82 ea-eb>88 ec>8d
    ed>a1 ee>8c ef>8b f0>d0 f1>a4 f2>95 f3>a2 f4>93 f5>e4 f6>94 f7>f6 f8>9b f9>97 fa>a3 fb>96
    fc>81 fd>ec fe>e7 ff>98 131>d5 192>9f 2017>f2 2500>c4 2502>b3 250c>da 2510>bf 2514>c0
    2518>d9 251c>c3 2524>b4 252c>c2 2534>c1 253c>c5 2550>cd 2551>ba 2554>c9 2557>bb 255a>c8
    255d>bc 2560>cc 2563>b9 2566>cb 2569>ca 256c>ce 2580>df 2584>dc 2588>db 2591-2593>b0
    25a0>fe"),
   ("cp852", "0-7f>0 a0>ff a4>cf a7>f5 a8>f9 ab>ae ac>aa ad>f0 b0>f8 b4>ef b8>f7 bb>af c1-c2>b5 c4>8e
    c7>80 c9>90 cb>d3 cd-ce>d6 d3>e0 d4>e2 d6>99 d7>9e da>e9 dc>9a dd>ed df>e1 e1>a0 e2>83
    e4>84 e7>87 e9>82 eb>89 ed>a1 ee>8c f3>a2 f4>93 f6>94 f7>f6 fa>a3 fc>81 fd>ec 102-103>c6
    104-105>a4 106>8f 107>86 10c>ac 10d>9f 10e>d2 10f>d4 110>d1 111>d0 118-119>a8 11a>b7 11b>d8
    139-13a>91 13d-13e>95 141>9d 142>88 143-144>e3 147>d5 148>e5 150-151>8a 154>e8 155>ea
    158-159>fc 15a-15b>97 15e>b8 15f>ad 160-161>e6 162>dd 163>ee 164-165>9b 16e>de 16f>85
    170>eb 171>fb 179>8d 17a>ab 17b-17c>bd 17d-17e>a6 2c7>f3 2d8>f4 2d9>fa 2db>f2 2dd>f1
    2500>c4 2502>b3 250c>da 2510>bf 2514>c0 2518>d9 251c>c3 2524>b4 252c>c2 2534>c1 253c>c5
    2550>cd 2551>ba 2554>c9 2557>bb 255a>c8 255d>bc 2560>cc 2563>b9 2566>cb 2569>ca 256c>ce
    2580>df 2584>dc 2588>db 2591-2593>b0 25a0>fe"),
   ("cp855", "0-7f>0 a0>ff a4>cf a7>fd ab>ae ad>f0 bb>af 401>85 402>81 403>83 404>87 405>89 406>8b 407>8d
    408>8f 409>91 40a>93 40b>95 40c>97 40e>99 40f>9b 410>a1 411>a3 412>ec 413>ad 414>a7 415>a9
    416>ea 417>f4 418>b8 419>be 41a>c7 41b>d1 41c>d3 41d>d5 41e>d7 41f>dd 420>e2 421>e4 422>e6
    423>e8 424>ab 425>b6 426>a5 427>fc 428>f6 429>fa 42a>9f 42b>f2 42c>ee 42d>f8 42e>9d 42f>e0
    430>a0 431>a2 432>eb 433>ac 434>a6 435>a8 436>e9 437>f3 438>b7 439>bd 43a>c6 43b>d0 43c>d2
    43d>d4 43e>d6 43f>d8 440>e1 441>e3 442>e5 443>e7 444>aa 445>b5 446>a4 447>fb 448>f5 449>f9
    44a>9e 44b>f1 44c>ed 44d>f7 44e>9c 44f>de 451>84 452>80 453>82 454>86 455>88 456>8a 457>8c
    458>8e 459>90 45a>92 45b>94 45c>96 45e>98 45f>9a 2116>ef 2500>c4 2502>b3 250c>da 2510>bf
    2514>c0 2518>d9 251c>c3 2524>b4 252c>c2 2534>c1 253c>c5 2550>cd 2551>ba 2554>c9 2557>bb
    255a>c8 255d>bc 2560>cc 2563>b9 2566>cb 2569>ca 256c>ce 2580>df 2584>dc 2588>db
    2591-2593>b0 25a0>fe"),
   ("cp856", "0-7f>0 a0>ff a2>bd a3>9c a4>cf a5>be a6>dd a7>f5 a8>f9 a9>b8 ab>ae ac>aa ad>f0 ae>a9 af>ee
    b0>f8 b1>f1 b2>fd b3>fc b4>ef b5>e6 b6>f4 b7>fa b8>f7 b9>fb bb>af bc>ac bd>ab be>f3 d7>9e
    f7>f6 5d0-5ea>80 2017>f2 2500>c4 2502>b3 250c>da 2510>bf 2514>c0 2518>d9 251c>c3 2524>b4
    252c>c2 2534>c1 253c>c5 2550>cd 2551>ba 2554>c9 2557>bb 255a>c8 255d>bc 2560>cc 2563>b9
    2566>cb 2569>ca 256c>ce 2580>df 2584>dc 2588>db 2591-2593>b0 25a0>fe"),
   ("cp857", "0-7f>0 a0>ff a1>ad a2>bd a3>9c a4>cf a5>be a6>dd a7>f5 a8>f9 a9>b8 aa>d1 ab>ae ac>aa ad>f0
    ae>a9 af>ee b0>f8 b1>f1 b2>fd b3>fc b4>ef b5>e6 b6>f4 b7>fa b8>f7 b9>fb ba>d0 bb>af bc>ac
    bd>ab be>f3 bf>a8 c0>b7 c1-c2>b5 c3>c7 c4-c5>8e c6>92 c7>80 c8>d4 c9>90 ca-cb>d2 cc>de
    cd-cf>d6 d1>a5 d2>e3 d3>e0 d4>e2 d5>e5 d6>99 d7>e8 d8>9d d9>eb da-db>e9 dc>9a df>e1 e0>85
    e1>a0 e2>83 e3>c6 e4>84 e5>86 e6>91 e7>87 e8>8a e9>82 ea-eb>88 ec>ec ed>a1 ee>8c ef>8b
    f1>a4 f2>95 f3>a2 f4>93 f5>e4 f6>94 f7>f6 f8>9b f9>97 fa>a3 fb>96 fc>81 ff>ed 11e-11f>a6
    130>98 131>8d 15e-15f>9e 2500>c4 2502>b3 250c>da 2510>bf 2514>c0 2518>d9 251c>c3 2524>b4
    252c>c2 2534>c1 253c>c5 2550>cd 2551>ba 2554>c9 2557>bb 255a>c8 255d>bc 2560>cc 2563>b9
    2566>cb 2569>ca 256c>ce 2580>df 2584>dc 2588>db 2591-2593>b0 25a0>fe"),
   ("cp858", "0-7f>0 a0>ff a1>ad a2>bd a3>9c a4>cf a5>be a6>dd a7>f5 a8>f9 a9>b8 aa>a6 ab>ae ac>aa ad>f0
    ae>a9 af>ee b0>f8 b1>f1 b2>fd b3>fc b4>ef b5>e6 b6>f4 b7>fa b8>f7 b9>fb ba>a7 bb>af bc>ac
    bd>ab be>f3 bf>a8 c0>b7 c1-c2>b5 c3>c7 c4-c5>8e c6>92 c7>80 c8>d4 c9>90 ca-cb>d2 cc>de
    cd-cf>d6 d0>d1 d1>a5 d2>e3 d3>e0 d4>e2 d5>e5 d6>99 d7>9e d8>9d d9>eb da-db>e9 dc>9a dd>ed
    de>e8 df>e1 e0>85 e1>a0 e2>83 e3>c6 e4>84 e5>86 e6>91 e7>87 e8>8a e9>82 ea-eb>88 ec>8d
    ed>a1 ee>8c ef>8b f0>d0 f1>a4 f2>95 f3>a2 f4>93 f5>e4 f6>94 f7>f6 f8>9b f9>97 fa>a3 fb>96
    fc>81 fd>ec fe>e7 ff>98 192>9f 2017>f2 20ac>d5 2500>c4 2502>b3 250c>da 2510>bf 2514>c0
    2518>d9 251c>c3 2524>b4 252c>c2 2534>c1 253c>c5 2550>cd 2551>ba 2554>c9 2557>bb 255a>c8
    255d>bc 2560>cc 2563>b9 2566>cb 2569>ca 256c>ce 2580>df 2584>dc 2588>db 2591-2593>b0
    25a0>fe"),
   ("cp860", "0-7f>0 a0>ff a1>ad a2-a3>9b aa>a6 ab>ae ac>aa b0>f8 b1>f1 b2>fd b5>e6 b7>fa ba>a7 bb>af
    bc>ac bd>ab bf>a8 c0>91 c1>86 c2>8f c3>8e c7>80 c8>92 c9>90 ca>89 cc>98 cd>8b d1>a5 d2>a9
    d3>9f d4>8c d5>99 d9>9d da>96 dc>9a df>e1 e0>85 e1>a0 e2-e3>83 e7>87 e8>8a e9>82 ea>88
    ec>8d ed>a1 f1>a4 f2>95 f3>a2 f4-f5>93 f7>f6 f9>97 fa>a3 fc>81 393>e2 398>e9 3a3>e4 3a6>e8
    3a9>ea 3b1>e0 3b4>eb 3b5>ee 3c0>e3 3c3>e5 3c4>e7 3c6>ed 207f>fc 20a7>9e 2219>f9 221a>fb
    221e>ec 2229>ef 2248>f7 2261>f0 2264>f3 2265>f2 2320-2321>f4 2500>c4 2502>b3 250c>da
    2510>bf 2514>c0 2518>d9 251c>c3 2524>b4 252c>c2 2534>c1 253c>c5 2550>cd 2551>ba
    2552-2553>d5 2554>c9 2555>b8 2556>b7 2557>bb 2558>d4 2559>d3 255a>c8 255b>be 255c>bd
    255d>bc 255e-255f>c6 2560>cc 2561-2562>b5 2563>b9 2564-2565>d1 2566>cb 2567-2568>cf 2569>ca
    256a>d8 256b>d7 256c>ce 2580>df 2584>dc 2588>db 258c>dd 2590>de 2591-2593>b0 25a0>fe"),
   ("cp861", "0-7f>0 a0>ff a1>ad a3>9c ab>ae ac>aa b0>f8 b1>f1 b2>fd b5>e6 b7>fa bb>af bc>ac bd>ab bf>a8
    c1>a4 c4-c5>8e c6>92 c7>80 c9>90 cd>a5 d0>8b d3>a6 d6>99 d8>9d da>a7 dc>9a dd>97 de>8d
    df>e1 e0>85 e1>a0 e2>83 e4>84 e5>86 e6>91 e7>87 e8>8a e9>82 ea-eb>88 ed>a1 f0>8c f3>a2
    f4>93 f6>94 f7>f6 f8>9b fa>a3 fb>96 fc>81 fd>98 fe>95 192>9f 393>e2 398>e9 3a3>e4 3a6>e8
    3a9>ea 3b1>e0 3b4>eb 3b5>ee 3c0>e3 3c3>e5 3c4>e7 3c6>ed 207f>fc 20a7>9e 2219>f9 221a>fb
    221e>ec 2229>ef 2248>f7 2261>f0 2264>f3 2265>f2 2310>a9 2320-2321>f4 2500>c4 2502>b3
    250c>da 2510>bf 2514>c0 2518>d9 251c>c3 2524>b4 252c>c2 2534>c1 253c>c5 2550>cd 2551>ba
    2552-2553>d5 2554>c9 2555>b8 2556>b7 2557>bb 2558>d4 2559>d3 255a>c8 255b>be 255c>bd
    255d>bc 255e-255f>c6 2560>cc 2561-2562>b5 2563>b9 2564-2565>d1 2566>cb 2567-2568>cf 2569>ca
    256a>d8 256b>d7 256c>ce 2580>df 2584>dc 2588>db 258c>dd 2590>de 2591-2593>b0 25a0>fe"),
   ("cp862", "0-7f>0 a0>ff a1>ad a2-a3>9b a5>9d aa>a6 ab>ae ac>aa b0>f8 b1>f1 b2>fd b5>e6 b7>fa ba>a7
    bb>af bc>ac bd>ab bf>a8 d1>a5 df>e1 e1>a0 ed>a1 f1>a4 f3>a2 f7>f6 fa>a3 192>9f 393>e2
    398>e9 3a3>e4 3a6>e8 3a9>ea 3b1>e0 3b4>eb 3b5>ee 3c0>e3 3c3>e5 3c4>e7 3c6>ed 5d0-5ea>80
    207f>fc 20a7>9e 2219>f9 221a>fb 221e>ec 2229>ef 2248>f7 2261>f0 2264>f3 2265>f2 2310>a9
    2320-2321>f4 2500>c4 2502>b3 250c>da 2510>bf 2514>c0 2518>d9 251c>c3 2524>b4 252c>c2
    2534>c1 253c>c5 2550>cd 2551>ba 2552-2553>d5 2554>c9 2555>b8 2556>b7 2557>bb 2558>d4
    2559>d3 255a>c8 255b>be 255c>bd 255d>bc 255e-255f>c6 2560>cc 2561-2562>b5 2563>b9
    2564-2565>d1 2566>cb 2567-2568>cf 2569>ca 256a>d8 256b>d7 256c>ce 2580>df 2584>dc 2588>db
    258c>dd 2590>de 2591-2593>b0 25a0>fe"),
   ("cp863", "0-7f>0 a0>ff a2-a3>9b a4>98 a6>a0 a7>8f a8>a4 ab>ae ac>aa af>a7 b0>f8 b1>f1 b2>fd b3>a6
    b4>a1 b5>e6 b6>86 b7>fa b8>a5 bb>af bc>ac bd>ab be>ad c0>8e c2>84 c7>80 c8>91 c9>90 ca>92
    cb>94 ce>a8 cf>95 d4>99 d9>9d db>9e dc>9a df>e1 e0>85 e2>83 e7>87 e8>8a e9>82 ea-eb>88
    ee>8c ef>8b f3>a2 f4>93 f7>f6 f9>97 fa>a3 fb>96 fc>81 192>9f 393>e2 398>e9 3a3>e4 3a6>e8
    3a9>ea 3b1>e0 3b4>eb 3b5>ee 3c0>e3 3c3>e5 3c4>e7 3c6>ed 2017>8d 207f>fc 2219>f9 221a>fb
    221e>ec 2229>ef 2248>f7 2261>f0 2264>f3 2265>f2 2310>a9 2320-2321>f4 2500>c4 2502>b3
    250c>da 2510>bf 2514>c0 2518>d9 251c>c3 2524>b4 252c>c2 2534>c1 253c>c5 2550>cd 2551>ba
    2552-2553>d5 2554>c9 2555>b8 2556>b7 2557>bb 2558>d4 2559>d3 255a>c8 255b>be 255c>bd
    255d>bc 255e-255f>c6 2560>cc 2561-2562>b5 2563>b9 2564-2565>d1 2566>cb 2567-2568>cf 2569>ca
    256a>d8 256b>d7 256c>ce 2580>df 2584>dc 2588>db 258c>dd 2590>de 2591-2593>b0 25a0>fe"),
   ("cp864", "0-24>0 26-7f>26 a0>a0 a2>c0 a3-a4>a3 a6>db ab>97 ac>dc ad>a1 b0>80 b1>93 b7>81 bb>98 bc>95
    bd>94 d7>de f7>dd 3b2>90 3c6>92 60c>ac 61b>bb 61f>bf 640>e0 651>f1 660-669>b0 66a>25
    2219-221a>82 221e>91 2248>96 2500>85 2502>86 250c>8d 2510>8c 2514>8e 2518>8f 251c>8a
    2524>88 252c>89 2534>8b 253c>87 2592>84 25a0>fe fe7d>f0 fe80-fe81>c1 fe82>a2 fe83>c3
    fe84>a5 fe85>c4 fe8b>c6 fe8d>c7 fe8e-fe8f>a8 fe91>c8 fe93>c9 fe95>aa fe97>ca fe99>ab
    fe9b>cb fe9d>ad fe9f>cc fea1>ae fea3>cd fea5>af fea7>ce fea9>cf feab>d0 fead>d1 feaf>d2
    feb1>bc feb3>d3 feb5>bd feb7>d4 feb9>be febb>d5 febd>eb febf>d6 fec1>d7 fec5>d8 fec9>df
    feca>c5 fecb>d9 fecc>ec fecd>ee fece>ed fecf>da fed0>f7 fed1>ba fed3>e1 fed5>f8 fed7>e2
    fed9>fc fedb>e3 fedd>fb fedf>e4 fee1>ef fee3>e5 fee5>f2 fee7>e6 fee9>f3 feeb>e7 feec>f4
    feed>e8 feef>e9 fef0>f5 fef1>fd fef2>f6 fef3>ea fef5-fef6>f9 fef7-fef8>99 fefb-fefc>9d"),
   ("cp865", "0-7f>0 a0>ff a1>ad a3>9c a4>af aa>a6 ab>ae ac>aa b0>f8 b1>f1 b2>fd b5>e6 b7>fa ba>a7 bc>ac
    bd>ab bf>a8 c4-c5>8e c6>92 c7>80 c9>90 d1>a5 d6>99 d8>9d dc>9a df>e1 e0>85 e1>a0 e2>83
    e4>84 e5>86 e6>91 e7>87 e8>8a e9>82 ea-eb>88 ec>8d ed>a1 ee>8c ef>8b f1>a4 f2>95 f3>a2
    f4>93 f6>94 f7>f6 f8>9b f9>97 fa>a3 fb>96 fc>81 ff>98 192>9f 393>e2 398>e9 3a3>e4 3a6>e8
    3a9>ea 3b1>e0 3b4>eb 3b5>ee 3c0>e3 3c3>e5 3c4>e7 3c6>ed 207f>fc 20a7>9e 2219>f9 221a>fb
    221e>ec 2229>ef 2248>f7 2261>f0 2264>f3 2265>f2 2310>a9 2320-2321>f4 2500>c4 2502>b3
    250c>da 2510>bf 2514>c0 2518>d9 251c>c3 2524>b4 252c>c2 2534>c1 253c>c5 2550>cd 2551>ba
    2552-2553>d5 2554>c9 2555>b8 2556>b7 2557>bb 2558>d4 2559>d3 255a>c8 255b>be 255c>bd
    255d>bc 255e-255f>c6 2560>cc 2561-2562>b5 2563>b9 2564-2565>d1 2566>cb 2567-2568>cf 2569>ca
    256a>d8 256b>d7 256c>ce 2580>df 2584>dc 2588>db 258c>dd 2590>de 2591-2593>b0 25a0>fe"),
   ("cp866", "0-7f>0 a0>ff a4>fd b0>f8 b7>fa 401>f0 404>f2 407>f4 40e>f6 410-43f>80 440-44f>e0 451>f1
    454>f3 457>f5 45e>f7 2116>fc 2219>f9 221a>fb 2500>c4 2502>b3 250c>da 2510>bf 2514>c0
    2518>d9 251c>c3 2524>b4 252c>c2 2534>c1 253c>c5 2550>cd 2551>ba 2552-2553>d5 2554>c9
    2555>b8 2556>b7 2557>bb 2558>d4 2559>d3 255a>c8 255b>be 255c>bd 255d>bc 255e-255f>c6
    2560>cc 2561-2562>b5 2563>b9 2564-2565>d1 2566>cb 2567-2568>cf 2569>ca 256a>d8 256b>d7
    256c>ce 2580>df 2584>dc 2588>db 258c>dd 2590>de 2591-2593>b0 25a0>fe"),
   ("cp869", "0-7f>0 a0>ff a3>9c a6>8a a7>f5 a8>f9 a9>97 ab>ae ac>89 ad>f0 b0>f8 b1>f1 b2-b3>99 b7>88
    bb>af bd>ab 384>ef 385>f7 386>86 388>8d 389-38a>8f 38c>92 38e>95 38f>98 390>a1 391-397>a4
    398-399>ac 39a-39d>b5 39e-39f>bd 3a0-3a1>c6 3a3-3a9>cf 3aa>91 3ab>96 3ac>9b 3ad-3af>9d
    3b0>fc 3b1-3b3>d6 3b4-3b5>dd 3b6-3c1>e0 3c2>ed 3c3>ec 3c4>ee 3c5-3c7>f2 3c8>f6 3c9>fa
    3ca>a0 3cb>fb 3cc-3cd>a2 3ce>fd 2015>8e 2018-2019>8b 2500>c4 2502>b3 250c>da 2510>bf
    2514>c0 2518>d9 251c>c3 2524>b4 252c>c2 2534>c1 253c>c5 2550>cd 2551>ba 2554>c9 2557>bb
    255a>c8 255d>bc 2560>cc 2563>b9 2566>cb 2569>ca 256c>ce 2580>df 2584>dc 2588>db
    2591-2593>b0 25a0>fe"),
   ("cp874", "0-7f>0 a0>a0 e01-e3a>a1 e3f-e5b>df 2013-2014>96 2018-2019>91 201c-201d>93 2022>95 2026>85
    20ac>80"),
   ("cp875", "0-3>0 4>37 5-7>2d 8>16 9>5 a>25 b-13>b 14-15>3c 16>32 17>26 18-19>18 1a>fd 1b>27 1c-1f>1c
    20>40 21>4f 22>7f 23>7b 24>5b 25>6c 26>50 27>7d 28>4d 29>5d 2a>5c 2b>4e 2c>6b 2d>60 2e>4b
    2f>61 30-39>f0 3a>7a 3b>5e 3c>4c 3d>7e 3e-3f>6e 40>7c 41-49>c1 4a-52>d1 53-5a>e2 5b>4a
    5c>e0 5d>5a 5e>5f 5f>6d 60>79 61-69>81 6a-72>91 73-7a>a2 7b>c0 7c>6a 7d>d0 7e>a1 7f>7
    80-84>20 85>15 86>6 87>17 88-8c>28 8d-8e>9 8f>1b 90-91>30 92>1a 93-96>33 97>8 98-9b>38 9c>4
    9d>14 9e>3e 9f>ff a0>74 a3>b0 a6>df a7>eb a8>70 a9>fb ab-ac>ee ad>ca b0>90 b1>da b2>ea
    b3>fa b4>a0 bb>fe bd>db 385>80 386>71 387>dd 388-389>72 38a>75 38c>76 38e-38f>77 390>cc
    391-399>41 39a-3a1>51 3a3>59 3a4-3ab>62 3ac-3ae>b1 3af>b5 3b0>cd 3b1-3b6>8a 3b7-3bc>9a
    3bd-3c1>aa 3c2>ba 3c3>af 3c4-3c8>bb 3c9>cb 3ca>b4 3cb>b8 3cc-3cd>b6 3ce>b9 2015>cf 2018>ce
    2019>de"),
   ("hp-roman8", "0-a0>0 a1>b8 a2>bf a3>bb a4>ba a5>bc a7>bd a8>ab aa>f9 ab>fb af>b0 b0>b3 b1>fe b4>a8
    b5-b6>f3 b7>f2 ba>fa bb>fd bc-bd>f7 be>f5 bf>b9 c0>a1 c1>e0 c2>a2 c3>e1 c4>d8 c5>d0 c6>d3
    c7>b4 c8>a3 c9>dc ca-cb>a4 cc>e6 cd>e5 ce-cf>a6 d0>e3 d1>b6 d2>e8 d3>e7 d4>df d5>e9 d6>da
    d8>d2 d9>ad da>ed db>ae dc>db dd>b1 de>f0 df>de e0>c8 e1>c4 e2>c0 e3>e2 e4>cc e5>d4 e6>d7
    e7>b5 e8>c9 e9>c5 ea>c1 eb>cd ec>d9 ed>d5 ee>d1 ef>dd f0>e4 f1>b7 f2>ca f3>c6 f4>c2 f5>ea
    f6>ce f8>d6 f9>cb fa>c7 fb>c3 fc>cf fd>b2 fe>f1 ff>ef 160-161>eb 178>ee 192>be 2c6>aa
    2cb>a9 2dc>ac 2014>f6 20a4>af 25a0>fc"),
   ("iso8859-1", "0-ff>0"),
   ("iso8859-10", "0-a0>0 a7>a7 ad>ad b0>b0 b7>b7 c1-c6>c1 c9>c9 cb>cb cd-d0>cd d3-d6>d3 d8>d8 da-df>da
    e1-e6>e1 e9>e9 eb>eb ed-f0>ed f3-f6>f3 f8>f8 fa-fe>fa 100>c0 101>e0 104>a1 105>b1 10c>c8
    10d>e8 110>a9 111>b9 112>a2 113>b2 116>cc 117>ec 118>ca 119>ea 122>a3 123>b3 128>a5 129>b5
    12a>a4 12b>b4 12e>c7 12f>e7 136>a6 137>b6 138>ff 13b>a8 13c>b8 145>d1 146>f1 14a>af 14b>bf
    14c>d2 14d>f2 160>aa 161>ba 166>ab 167>bb 168>d7 169>f7 16a>ae 16b>be 172>d9 173>f9 17d>ac
    17e>bc 2015>bd"),
   ("iso8859-11", "0-a0>0 e01-e3a>a1 e3f-e5b>df"),
   ("iso8859-13", "0-a0>0 a2-a4>a2 a6-a7>a6 a9>a9 ab-ae>ab b0-b3>b0 b5-b7>b5 b9>b9 bb-be>bb c4-c5>c4 c6>af
    c9>c9 d3>d3 d5-d7>d5 d8>a8 dc>dc df>df e4-e5>e4 e6>bf e9>e9 f3>f3 f5-f7>f5 f8>b8 fc>fc
    100>c2 101>e2 104>c0 105>e0 106>c3 107>e3 10c>c8 10d>e8 112>c7 113>e7 116>cb 117>eb 118>c6
    119>e6 122>cc 123>ec 12a>ce 12b>ee 12e>c1 12f>e1 136>cd 137>ed 13b>cf 13c>ef 141>d9 142>f9
    143>d1 144>f1 145>d2 146>f2 14c>d4 14d>f4 156>aa 157>ba 15a>da 15b>fa 160>d0 161>f0 16a>db
    16b>fb 172>d8 173>f8 179>ca 17a>ea 17b>dd 17c>fd 17d>de 17e>fe 2019>ff 201c>b4 201d>a1
    201e>a5"),
   ("iso8859-14", "0-a0>0 a3>a3 a7>a7 a9>a9 ad-ae>ad b6>b6 c0-cf>c0 d1-d6>d1 d8-dd>d8 df-ef>df f1-f6>f1
    f8-fd>f8 ff>ff 10a-10b>a4 120-121>b2 174>d0 175>f0 176>de 177>fe 178>af 1e02-1e03>a1
    1e0a>a6 1e0b>ab 1e1e-1e1f>b0 1e40-1e41>b4 1e56>b7 1e57>b9 1e60>bb 1e61>bf 1e6a>d7 1e6b>f7
    1e80>a8 1e81>b8 1e82>aa 1e83>ba 1e84-1e85>bd 1ef2>ac 1ef3>bc"),
   ("iso8859-15", "0-a3>0 a5>a5 a7>a7 a9-b3>a9 b5-b7>b5 b9-bb>b9 bf-ff>bf 152-153>bc 160>a6 161>a8 178>be
    17d>b4 17e>b8 20ac>a4"),
   ("iso8859-16", "0-a0>0 a7>a7 a9>a9 ab>ab ad>ad b0-b1>b0 b6-b7>b6 bb>bb c0-c2>c0 c4>c4 c6-cf>c6 d2-d4>d2
    d6>d6 d9-dc>d9 df-e2>df e4>e4 e6-ef>e6 f2-f4>f2 f6>f6 f9-fc>f9 ff>ff 102>c3 103>e3
    104-105>a1 106>c5 107>e5 10c>b2 10d>b9 110>d0 111>f0 118>dd 119>fd 141>a3 142>b3 143>d1
    144>f1 150>d5 151>f5 152-153>bc 15a>d7 15b>f7 160>a6 161>a8 170>d8 171>f8 178>be 179>ac
    17a-17b>ae 17c>bf 17d>b4 17e>b8 218>aa 219>ba 21a>de 21b>fe 201d>b5 201e>a5 20ac>a4"),
   ("iso8859-2", "0-a0>0 a4>a4 a7-a8>a7 ad>ad b0>b0 b4>b4 b8>b8 c1-c2>c1 c4>c4 c7>c7 c9>c9 cb>cb cd-ce>cd
    d3-d4>d3 d6-d7>d6 da>da dc-dd>dc df>df e1-e2>e1 e4>e4 e7>e7 e9>e9 eb>eb ed-ee>ed f3-f4>f3
    f6-f7>f6 fa>fa fc-fd>fc 102>c3 103>e3 104>a1 105>b1 106>c6 107>e6 10c>c8 10d>e8 10e>cf
    10f>ef 110>d0 111>f0 118>ca 119>ea 11a>cc 11b>ec 139>c5 13a>e5 13d>a5 13e>b5 141>a3 142>b3
    143>d1 144>f1 147>d2 148>f2 150>d5 151>f5 154>c0 155>e0 158>d8 159>f8 15a>a6 15b>b6 15e>aa
    15f>ba 160>a9 161>b9 162>de 163>fe 164>ab 165>bb 16e>d9 16f>f9 170>db 171>fb 179>ac 17a>bc
    17b>af 17c>bf 17d>ae 17e>be 2c7>b7 2d8>a2 2d9>ff 2db>b2 2dd>bd"),
   ("iso8859-3", "0-a0>0 a3-a4>a3 a7-a8>a7 ad>ad b0>b0 b2-b5>b2 b7-b8>b7 bd>bd c0-c2>c0 c4>c4 c7-cf>c7
    d1-d4>d1 d6-d7>d6 d9-dc>d9 df-e2>df e4>e4 e7-ef>e7 f1-f4>f1 f6-f7>f6 f9-fc>f9 108>c6 109>e6
    10a>c5 10b>e5 11c>d8 11d>f8 11e>ab 11f>bb 120>d5 121>f5 124>a6 125>b6 126>a1 127>b1 130>a9
    131>b9 134>ac 135>bc 15c>de 15d>fe 15e>aa 15f>ba 16c>dd 16d>fd 17b>af 17c>bf 2d8>a2 2d9>ff"),
   ("iso8859-4", "0-a0>0 a4>a4 a7-a8>a7 ad>ad af-b0>af b4>b4 b8>b8 c1-c6>c1 c9>c9 cb>cb cd-ce>cd d4-d8>d4
    da-dc>da df>df e1-e6>e1 e9>e9 eb>eb ed-ee>ed f4-f8>f4 fa-fc>fa 100>c0 101>e0 104>a1 105>b1
    10c>c8 10d>e8 110>d0 111>f0 112>aa 113>ba 116>cc 117>ec 118>ca 119>ea 122>ab 123>bb 128>a5
    129>b5 12a>cf 12b>ef 12e>c7 12f>e7 136>d3 137>f3 138>a2 13b>a6 13c>b6 145>d1 146>f1 14a>bd
    14b>bf 14c>d2 14d>f2 156>a3 157>b3 160>a9 161>b9 166>ac 167>bc 168>dd 169>fd 16a>de 16b>fe
    172>d9 173>f9 17d>ae 17e>be 2c7>b7 2d9>ff 2db>b2"),
   ("iso8859-5", "0-a0>0 a7>fd ad>ad 401-40c>a1 40e-44f>ae 451-45c>f1 45e-45f>fe 2116>f0"),
   ("iso8859-6", "0-a0>0 a4>a4 ad>ad 60c>ac 61b>bb 61f>bf 621-63a>c1 640-652>e0"),
   ("iso8859-7", "0-a0>0 a3>a3 a6-a9>a6 ab-ad>ab b0-b3>b0 b7>b7 bb>bb bd>bd 37a>aa 384-386>b4 388-38a>b8
    38c>bc 38e-3a1>be 3a3-3ce>d3 2015>af 2018-2019>a1 20ac>a4 20af>a5"),
   ("iso8859-8", "0-a0>0 a2-a9>a2 ab-b9>ab bb-be>bb d7>aa f7>ba 5d0-5ea>e0 200e-200f>fd 2017>df"),
   ("iso8859-9", "0-cf>0 d1-dc>d1 df-ef>df f1-fc>f1 ff>ff 11e>d0 11f>f0 130>dd 131>fd 15e>de 15f>fe"),
   ("koi8-r", "0-7f>0 a0>9a a9>bf b0>9c b2>9d b7>9e f7>9f 401>b3 410-411>e1 412>f7 413>e7 414-415>e4
    416>f6 417>fa 418-41f>e9 420-423>f2 424>e6 425>e8 426>e3 427>fe 428>fb 429>fd 42a>ff 42b>f9
    42c>f8 42d>fc 42e>e0 42f>f1 430-431>c1 432>d7 433>c7 434-435>c4 436>d6 437>da 438-43f>c9
    440-443>d2 444>c6 445>c8 446>c3 447>de 448>db 449>dd 44a>df 44b>d9 44c>d8 44d>dc 44e>c0
    44f>d1 451>a3 2219-221a>95 2248>97 2264-2265>98 2320>93 2321>9b 2500>80 2502>81 250c>82
    2510>83 2514>84 2518>85 251c>86 2524>87 252c>88 2534>89 253c>8a 2550-2552>a0 2553-2561>a4
    2562-256c>b4 2580>8b 2584>8c 2588>8d 258c>8e 2590-2593>8f 25a0>94"),
   ("koi8-t", "0-7f>0 a4>a4 a6-a7>a6 a9>bf ab-ae>ab b0-b2>b0 b6-b7>b6 bb>bb 401>b3 410-411>e1 412>f7
    413>e7 414-415>e4 416>f6 417>fa 418-41f>e9 420-423>f2 424>e6 425>e8 426>e3 427>fe 428>fb
    429>fd 42a>ff 42b>f9 42c>f8 42d>fc 42e>e0 42f>f1 430-431>c1 432>d7 433>c7 434-435>c4 436>d6
    437>da 438-43f>c9 440-443>d2 444>c6 445>c8 446>c3 447>de 448>db 449>dd 44a>df 44b>d9 44c>d8
    44d>dc 44e>c0 44f>d1 451>a3 492>83 493>81 49a>90 49b>80 4b2>8c 4b3>8a 4b6>8e 4b7>8d 4e2>b5
    4e3>a5 4ee>a2 4ef>a1 2013-2014>96 2018-2019>91 201a>82 201c-201d>93 201e>84 2020-2021>86
    2022>95 2026>85 2030>89 2039>8b 203a>9b 2116>b9 2122>99"),
   ("koi8-u", "0-7f>0 a0>9a a9>bf b0>9c b2>9d b7>9e f7>9f 401>b3 404>b4 406-407>b6 410-411>e1 412>f7
    413>e7 414-415>e4 416>f6 417>fa 418-41f>e9 420-423>f2 424>e6 425>e8 426>e3 427>fe 428>fb
    429>fd 42a>ff 42b>f9 42c>f8 42d>fc 42e>e0 42f>f1 430-431>c1 432>d7 433>c7 434-435>c4 436>d6
    437>da 438-43f>c9 440-443>d2 444>c6 445>c8 446>c3 447>de 448>db 449>dd 44a>df 44b>d9 44c>d8
    44d>dc 44e>c0 44f>d1 451>a3 454>a4 456-457>a6 490>bd 491>ad 2219-221a>95 2248>97
    2264-2265>98 2320>93 2321>9b 2500>80 2502>81 250c>82 2510>83 2514>84 2518>85 251c>86
    2524>87 252c>88 2534>89 253c>8a 2550-2552>a0 2554>a5 2557-255b>a8 255d-2561>ae 2563>b5
    2566-256a>b8 256c>be 2580>8b 2584>8c 2588>8d 258c>8e 2590-2593>8f 25a0>94"),
   ("kz1048", "0-7f>0 a0>a0 a4>a4 a6-a7>a6 a9>a9 ab-ae>ab b0-b1>b0 b5-b7>b5 bb>bb 401>a8 402-403>80 406>b2
    409>8a 40a>8c 40f>8f 410-44f>c0 451>b8 452>90 453>83 456>b3 459>9a 45a>9c 45f>9f 492>aa
    493>ba 49a>8d 49b>9d 4a2-4a3>bd 4ae>af 4af>bf 4b0-4b1>a1 4ba>8e 4bb>9e 4d8>a3 4d9>bc 4e8>a5
    4e9>b4 2013-2014>96 2018-2019>91 201a>82 201c-201d>93 201e>84 2020-2021>86 2022>95 2026>85
    2030>89 2039>8b 203a>9b 20ac>88 2116>b9 2122>99"),
   ("mac-arabic", "0-1f>0 20-24>a0 25>25 26-2b>a6 2c>2c 2d-2f>ad 30-39>30 3a>ba 3b>3b 3c-3e>bc 3f-5a>3f
    5b-5f>db 60-7a>60 7b-7d>fb 7e-7f>7e a0>81 ab>8c bb>98 c4>80 c7>82 c9>83 d1>84 d6>85 dc>86
    e0>88 e1>87 e2>89 e4>8a e7>8d e8>8f e9>8e ea-eb>90 ed>92 ee-ef>94 f1>96 f3>97 f4>99
    f6-f7>9a f9>9d fa>9c fb-fc>9e 60c>ac 61b>bb 61f>bf 621-63a>c1 640-652>e0 660-669>b0 66a>a5
    679>f4 67e>f3 686>f5 688>f9 691>fa 698>fe 6a4>f7 6af>f8 6ba>8b 6d2>ff 6d5>f6 2026>93
    274a>c0"),
   ("mac-croatian", "0-7f>0 a0>ca a1>c1 a2-a3>a2 a7>a4 a8>ac a9>d9 aa>bb ab>c7 ac>c2 ae>a8 af>f8 b0>a1 b1>b1
    b4>ab b5>b5 b6>a6 b7>e1 b8>fc ba>bc bb>df bf>c0 c0>cb c1>e7 c2>e5 c3>cc c4-c5>80 c6>de
    c7>82 c8>e9 c9>83 ca>fd cb>fa cc>ed cd-cf>ea d1>84 d2>f1 d3-d4>ee d5>cd d6>85 d8>af d9>f4
    da-db>f2 dc>86 df>a7 e0>88 e1>87 e2>89 e3>8b e4>8a e5>8c e6>fe e7>8d e8>8f e9>8e ea-eb>90
    ec>93 ed>92 ee-ef>94 f1>96 f2>98 f3>97 f4>99 f5>9b f6>9a f7>d6 f8>bf f9>9d fa>9c fb-fc>9e
    106>c6 107>e6 10c>c8 10d>e8 110>d0 111>f0 131>f5 152-153>ce 160>a9 161>b9 17d>ae 17e>be
    192>c4 2c6>f6 2c7>ff 2da>fb 2dc>f7 3a9>bd 3c0>f9 2013>e0 2014>d1 2018-2019>d4 201a>e2
    201c-201d>d2 201e>e3 2020>a0 2022>a5 2026>c9 2030>e4 2039-203a>dc 2044>da 20ac>db 2122>aa
    2202>b6 2206>b4 220f>b8 2211>b7 221a>c3 221e>b0 222b>ba 2248>c5 2260>ad 2264-2265>b2
    25ca>d7 f8ff>d8"),
   ("mac-cyrillic", "0-7f>0 a0>ca a3>a3 a7>a4 a9>a9 ab>c7 ac>c2 ae>a8 b0>a1 b1>b1 b5>b5 b6>a6 bb>c8 f7>d6 192>c4
    401>dd 402>ab 403>ae 404>b8 405>c1 406>a7 407>ba 408>b7 409>bc 40a>be 40b>cb 40c>cd 40e>d8
    40f>da 410-42f>80 430-44e>e0 44f>df 451>de 452>ac 453>af 454>b9 455>cf 456>b4 457>bb 458>c0
    459>bd 45a>bf 45b>cc 45c>ce 45e>d9 45f>db 490>a2 491>b6 2013-2014>d0 2018-2019>d4
    201c-201d>d2 201e>d7 2020>a0 2022>a5 2026>c9 20ac>ff 2116>dc 2122>aa 2206>c6 221a>c3
    221e>b0 2248>c5 2260>ad 2264-2265>b2"),
   ("mac-farsi", "0-1f>0 20-24>a0 25>25 26-2b>a6 2c>2c 2d-2f>ad 30-39>30 3a>ba 3b>3b 3c-3e>bc 3f-5a>3f
    5b-5f>db 60-7a>60 7b-7d>fb 7e-7f>7e a0>81 ab>8c bb>98 c4>80 c7>82 c9>83 d1>84 d6>85 dc>86
    e0>88 e1>87 e2>89 e4>8a e7>8d e8>8f e9>8e ea-eb>90 ed>92 ee-ef>94 f1>96 f3>97 f4>99
    f6-f7>9a f9>9d fa>9c fb-fc>9e 60c>ac 61b>bb 61f>bf 621-63a>c1 640-652>e0 66a>a5 679>f4
    67e>f3 686>f5 688>f9 691>fa 698>fe 6a4>f7 6af>f8 6ba>8b 6d2>ff 6d5>f6 6f0-6f9>b0 2026>93
    274a>c0"),
   ("mac-greek", "0-7f>0 a0>ca a3>92 a5>b4 a6>9b a7>ac a8>8c a9>a9 ab>c7 ac>c2 ad>ff ae>a8 b0>ae b1>b1 b2>82
    b3>84 b7>af b9>81 bb>c8 bd>97 c4>80 c9>83 d6>85 dc>86 df>a7 e0>88 e2>89 e4>8a e7>8d e8>8f
    e9>8e ea-eb>90 ee-ef>94 f4>99 f6>9a f7>d6 f9>9d fb-fc>9e 153>cf 384>8b 385>87 386>cd 388>ce
    389-38a>d7 38c>d9 38e>da 38f>df 390>fd 391>b0 392>b5 393-394>a1 395-397>b6 398>a3
    399-39a>b9 39b>a4 39c>bb 39d>c1 39e>a5 39f>c3 3a0>a6 3a1>c4 3a3>aa 3a4>c6 3a5>cb 3a6>bc
    3a7>cc 3a8-3a9>be 3aa>ab 3ab>bd 3ac>c0 3ad-3af>db 3b0>fe 3b1-3b2>e1 3b3>e7 3b4-3b5>e4
    3b6>fa 3b7>e8 3b8>f5 3b9>e9 3ba-3bd>eb 3be>ea 3bf-3c0>ef 3c1>f2 3c2>f7 3c3-3c4>f3 3c5>f9
    3c6>e6 3c7>f8 3c8>e3 3c9>f6 3ca-3cb>fb 3cc>de 3cd>e0 3ce>f1 2013>d0 2015>d1 2018-2019>d4
    201c-201d>d2 2020>a0 2022>96 2026>c9 2030>98 20ac>9c 2122>93 2248>c5 2260>ad 2264-2265>b2"),
   ("mac-iceland", "0-7f>0 a0>ca a1>c1 a2-a3>a2 a5>b4 a7>a4 a8>ac a9>a9 aa>bb ab>c7 ac>c2 ae>a8 af>f8 b0>a1
    b1>b1 b4>ab b5>b5 b6>a6 b7>e1 b8>fc ba>bc bb>c8 bf>c0 c0>cb c1>e7 c2>e5 c3>cc c4-c5>80
    c6>ae c7>82 c8>e9 c9>83 ca>e6 cb>e8 cc>ed cd-cf>ea d0>dc d1>84 d2>f1 d3-d4>ee d5>cd d6>85
    d8>af d9>f4 da-db>f2 dc>86 dd>a0 de>de df>a7 e0>88 e1>87 e2>89 e3>8b e4>8a e5>8c e6>be
    e7>8d e8>8f e9>8e ea-eb>90 ec>93 ed>92 ee-ef>94 f0>dd f1>96 f2>98 f3>97 f4>99 f5>9b f6>9a
    f7>d6 f8>bf f9>9d fa>9c fb-fc>9e fd>e0 fe>df ff>d8 131>f5 152-153>ce 178>d9 192>c4 2c6>f6
    2c7>ff 2d8-2da>f9 2db>fe 2dc>f7 2dd>fd 3a9>bd 3c0>b9 2013-2014>d0 2018-2019>d4 201a>e2
    201c-201d>d2 201e>e3 2022>a5 2026>c9 2030>e4 2044>da 20ac>db 2122>aa 2202>b6 2206>c6
    220f>b8 2211>b7 221a>c3 221e>b0 222b>ba 2248>c5 2260>ad 2264-2265>b2 25ca>d7 f8ff>f0"),
   ("mac-latin2", "0-7f>0 a0>ca a3>a3 a7>a4 a8>ac a9>a9 ab>c7 ac>c2 ae>a8 b0>a1 b6>a6 bb>c8 c1>e7 c4>80 c9>83
    cd>ea d3-d4>ee d5>cd d6>85 da>f2 dc>86 dd>f8 df>a7 e1>87 e4>8a e9>8e ed>92 f3>97 f4>99
    f5>9b f6>9a f7>d6 fa>9c fc>9f fd>f9 100-101>81 104>84 105>88 106-107>8c 10c>89 10d>8b
    10e>91 10f>93 112-113>94 116>96 117>98 118>a2 119>ab 11a-11b>9d 122>fe 123>ae 12a>b1 12b>b4
    12e-12f>af 136>b5 137>fa 139-13a>bd 13b-13e>b9 141>fc 142>b8 143>c1 144>c4 145-146>bf
    147>c5 148>cb 14c>cf 14d>d8 150>cc 151>ce 154-155>d9 156-157>df 158>db 159>de 15a-15b>e5
    160>e1 161>e4 164-165>e8 16a>ed 16b>f0 16e>f1 16f-173>f3 179-17a>8f 17b>fb 17c>fd
    17d-17e>eb 2c7>ff 2013-2014>d0 2018-2019>d4 201a>e2 201c-201d>d2 201e>e3 2020>a0 2022>a5
    2026>c9 2039-203a>dc 2122>aa 2202>b6 2206>c6 2211>b7 221a>c3 2260>ad 2264-2265>b2 25ca>d7"),
   ("mac-roman", "0-7f>0 a0>ca a1>c1 a2-a3>a2 a5>b4 a7>a4 a8>ac a9>a9 aa>bb ab>c7 ac>c2 ae>a8 af>f8 b0>a1
    b1>b1 b4>ab b5>b5 b6>a6 b7>e1 b8>fc ba>bc bb>c8 bf>c0 c0>cb c1>e7 c2>e5 c3>cc c4-c5>80
    c6>ae c7>82 c8>e9 c9>83 ca>e6 cb>e8 cc>ed cd-cf>ea d1>84 d2>f1 d3-d4>ee d5>cd d6>85 d8>af
    d9>f4 da-db>f2 dc>86 df>a7 e0>88 e1>87 e2>89 e3>8b e4>8a e5>8c e6>be e7>8d e8>8f e9>8e
    ea-eb>90 ec>93 ed>92 ee-ef>94 f1>96 f2>98 f3>97 f4>99 f5>9b f6>9a f7>d6 f8>bf f9>9d fa>9c
    fb-fc>9e ff>d8 131>f5 152-153>ce 178>d9 192>c4 2c6>f6 2c7>ff 2d8-2da>f9 2db>fe 2dc>f7
    2dd>fd 3a9>bd 3c0>b9 2013-2014>d0 2018-2019>d4 201a>e2 201c-201d>d2 201e>e3 2020>a0 2021>e0
    2022>a5 2026>c9 2030>e4 2039-203a>dc 2044>da 20ac>db 2122>aa 2202>b6 2206>c6 220f>b8
    2211>b7 221a>c3 221e>b0 222b>ba 2248>c5 2260>ad 2264-2265>b2 25ca>d7 f8ff>f0 fb01-fb02>de"),
   ("mac-romanian", "0-7f>0 a0>ca a1>c1 a2-a3>a2 a5>b4 a7>a4 a8>ac a9>a9 aa>bb ab>c7 ac>c2 ae>a8 af>f8 b0>a1
    b1>b1 b4>ab b5>b5 b6>a6 b7>e1 b8>fc ba>bc bb>c8 bf>c0 c0>cb c1>e7 c2>e5 c3>cc c4-c5>80
    c7>82 c8>e9 c9>83 ca>e6 cb>e8 cc>ed cd-cf>ea d1>84 d2>f1 d3-d4>ee d5>cd d6>85 d9>f4
    da-db>f2 dc>86 df>a7 e0>88 e1>87 e2>89 e3>8b e4>8a e5>8c e7>8d e8>8f e9>8e ea-eb>90 ec>93
    ed>92 ee-ef>94 f1>96 f2>98 f3>97 f4>99 f5>9b f6>9a f7>d6 f9>9d fa>9c fb-fc>9e ff>d8 102>ae
    103>be 131>f5 152-153>ce 178>d9 192>c4 218>af 219>bf 21a-21b>de 2c6>f6 2c7>ff 2d8-2da>f9
    2db>fe 2dc>f7 2dd>fd 3a9>bd 3c0>b9 2013-2014>d0 2018-2019>d4 201a>e2 201c-201d>d2 201e>e3
    2020>a0 2021>e0 2022>a5 2026>c9 2030>e4 2039-203a>dc 2044>da 20ac>db 2122>aa 2202>b6
    2206>c6 220f>b8 2211>b7 221a>c3 221e>b0 222b>ba 2248>c5 2260>ad 2264-2265>b2 25ca>d7
    f8ff>f0"),
   ("mac-turkish", "0-7f>0 a0>ca a1>c1 a2-a3>a2 a5>b4 a7>a4 a8>ac a9>a9 aa>bb ab>c7 ac>c2 ae>a8 af>f8 b0>a1
    b1>b1 b4>ab b5>b5 b6>a6 b7>e1 b8>fc ba>bc bb>c8 bf>c0 c0>cb c1>e7 c2>e5 c3>cc c4-c5>80
    c6>ae c7>82 c8>e9 c9>83 ca>e6 cb>e8 cc>ed cd-cf>ea d1>84 d2>f1 d3-d4>ee d5>cd d6>85 d8>af
    d9>f4 da-db>f2 dc>86 df>a7 e0>88 e1>87 e2>89 e3>8b e4>8a e5>8c e6>be e7>8d e8>8f e9>8e
    ea-eb>90 ec>93 ed>92 ee-ef>94 f1>96 f2>98 f3>97 f4>99 f5>9b f6>9a f7>d6 f8>bf f9>9d fa>9c
    fb-fc>9e ff>d8 11e-11f>da 130-131>dc 152-153>ce 15e-15f>de 178>d9 192>c4 2c6>f6 2c7>ff
    2d8-2da>f9 2db>fe 2dc>f7 2dd>fd 3a9>bd 3c0>b9 2013-2014>d0 2018-2019>d4 201a>e2
    201c-201d>d2 201e>e3 2020>a0 2021>e0 2022>a5 2026>c9 2030>e4 2122>aa 2202>b6 2206>c6
    220f>b8 2211>b7 221a>c3 221e>b0 222b>ba 2248>c5 2260>ad 2264-2265>b2 25ca>d7 f8a0>f5
    f8ff>f0"),
   ("palmos", "0-7f>0 81>81 9b>9b 9d-9e>9d a0-ff>a0 152>8c 153>9c 160>8a 161>9a 178>9f 192>83 2c6>88
    2dc>98 2013-2014>96 2018-2019>91 201a>82 201c-201d>93 201e>84 2020-2021>86 2022>95 2026>85
    2030>89 2039>8b 20ac>80 2122>99 2660>90 2663>8e 2665>8f 2666>8d"),
   ("ptcp154", "0-7f>0 a0>a0 a7>a7 a9>a9 ab-ac>ab ae>ae b0>b0 b6-b7>b6 bb>bb 401>a8 406>b2 408>a3 40e>a1
    410-44f>c0 451>b8 456>b3 458>bc 45e>a2 492>81 493>83 496>80 497>90 498>a5 499>b4 49a>8d
    49b>9d 49c>af 49d>bf 4a0>8a 4a1>9a 4a2>8c 4a3>9c 4aa-4ab>bd 4ae>87 4af>89 4b0>a6 4b1>b1
    4b2>88 4b3>98 4b6>86 4b7>99 4b8>8f 4b9>9f 4ba>8e 4bb>9e 4d8>aa 4d9>ba 4e2>8b 4e3>9b 4e8>a4
    4e9>b5 4ee>82 4ef>ad 2013-2014>96 2018-2019>91 201c-201d>93 201e>84 2022>95 2026>85 2116>b9"),
   ("tis-620", "0-9f>0 e01-e3a>a1 e3f-e5b>df")]

/-- The map from code points to bytes of a single-byte charset. -/
def singleByte? (name : String) : Option CodeMap :=
  (singleByteTexts.find? (·.1 == name)).map fun entry => .read entry.2

end Covenant.Charset
